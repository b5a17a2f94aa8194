import SmwRecomp.Audio.ModAudio

/-!
# The cue files

`src/src/mods/falcon/smw_falcon_audio.c`: the parser of the WAV files the cues come in.

* A file is the list of its bytes. A read outside stops with `outOfBounds`, a `return 0` with
  `refused`.
* `Chunk`, `Format`, `CueFile` — the grammar of a cue file, on its own terms.
* `Seen`, `Noted` — what the walk over the chunks knows of those behind it.
* `walkChunks_contained`, `Noted.walk` — the walk gets through exactly what chunks tile.
* `parsePcmWave_iff` — the parser accepts the grammar, and delivers the data chunk.
-/

set_option autoImplicit false

namespace SmwRecomp.Audio

def SMW_FALCON_AUDIO_MAX_WAV_BYTES : Nat := 16 * 1024 * 1024

/-! ## The parser -/

/-- The bytes of a string literal. -/
def tag (s : String) : Bytes := s.toList.map fun c => UInt8.ofNat c.toNat

/-- `memcmp(file + p, tag, 4) == 0`. -/
def hasTag (file : Bytes) (p : Nat) (tag : Bytes) : Except Stop Bool := do
  let bs ← fetchBytes file p 4
  return bs = tag

/-- The locals of the walk over the chunks. -/
structure ChunkWalk where
  offset : UInt32
  fmtOffset : UInt32
  dataOffset : UInt32
  dataSize : UInt32
  fmtSize : UInt32
  sawFmt : Bool
  sawData : Bool

def ChunkWalk.start : ChunkWalk := ⟨12, 0, 0, 0, 0, false, false⟩

/-- What the loop body takes down of a format chunk. -/
def ChunkWalk.noteFmt (w : ChunkWalk) (chunkSize : UInt32) : Except Stop ChunkWalk := do
  refuseIf (w.sawFmt = true)
  return { w with sawFmt := true, fmtOffset := w.offset + 8, fmtSize := chunkSize }

/-- What the loop body takes down of a data chunk. -/
def ChunkWalk.noteData (w : ChunkWalk) (chunkSize : UInt32) : Except Stop ChunkWalk := do
  refuseIf (w.sawData = true)
  return { w with sawData := true, dataOffset := w.offset + 8, dataSize := chunkSize }

/-- The two comparisons of the loop body. -/
def ChunkWalk.note (file : Bytes) (w : ChunkWalk) (chunkSize : UInt32) : Except Stop ChunkWalk := do
  if ← hasTag file w.offset.toNat (tag "fmt ") then w.noteFmt chunkSize
  else if ← hasTag file w.offset.toNat (tag "data") then w.noteData chunkSize
  else return w

/-- `next`: behind the header, the payload and the byte that makes it even. -/
def nextChunk (offset chunkSize : UInt32) : UInt64 :=
  offset.toUInt64 + 8 + chunkSize.toUInt64 + (chunkSize &&& 1).toUInt64

theorem nextChunk_toNat (offset chunkSize : UInt32) :
    (nextChunk offset chunkSize).toNat = offset.toNat + 8 + chunkSize.toNat +
      chunkSize.toNat % 2 := by
  have hoffset := offset.toNat_lt
  have hsize := chunkSize.toNat_lt
  have hodd : (chunkSize &&& 1).toNat = chunkSize.toNat % 2 := by
    rw [UInt32.toNat_and]
    exact Nat.and_one_is_mod _
  have hle := Nat.mod_lt chunkSize.toNat (show 0 < 2 by decide)
  unfold nextChunk
  simp only [UInt64.toNat_add, UInt32.toNat_toUInt64, hodd]
  have height : (8 : UInt64).toNat = 8 := rfl
  rw [height]
  omega

/-- `while (offset < file_size)`. -/
def walkChunks (file : Bytes) (fileSize : UInt32) (w : ChunkWalk) : Except Stop ChunkWalk :=
  if hoffset : w.offset < fileSize then do
    refuseIf (fileSize - w.offset < 8)
    let chunkSize ← fetch32 file (w.offset.toNat + 4)
    if _hnext : nextChunk w.offset chunkSize > fileSize.toUInt64 then .error .refused
    else do
      let noted ← w.note file chunkSize
      walkChunks file fileSize { noted with offset := (nextChunk w.offset chunkSize).toUInt32 }
  else .ok w
termination_by fileSize.toNat - w.offset.toNat
decreasing_by
  have hbelow := UInt32.lt_iff_toNat_lt.1 hoffset
  have hinside : (nextChunk w.offset chunkSize).toNat ≤ fileSize.toNat := Nat.le_of_not_lt _hnext
  have hsize := fileSize.toNat_lt
  have hlow : (nextChunk w.offset chunkSize).toUInt32.toNat =
    (nextChunk w.offset chunkSize).toNat := by
    rw [UInt64.toNat_toUInt32]
    exact Nat.mod_eq_of_lt (by omega)
  rw [hlow, nextChunk_toNat]
  omega

/-- What the parser hands out; `samples` is the place of the window in the file. -/
structure PcmWave where
  samples : UInt32
  frames : UInt32
  rate : UInt32
  channels : UInt32
  deriving DecidableEq

/-- What the parser reads once the walk is over. -/
def ChunkWalk.parseFormat (file : Bytes) (w : ChunkWalk) : Except Stop PcmWave := do
  let format ← fetch16 file w.fmtOffset.toNat
  refuseIf (format ≠ 1)
  let channels ← fetch16 file (w.fmtOffset.toNat + 2)
  let rate ← fetch32 file (w.fmtOffset.toNat + 4)
  let byteRate ← fetch32 file (w.fmtOffset.toNat + 8)
  let blockAlign ← fetch16 file (w.fmtOffset.toNat + 12)
  let bits ← fetch16 file (w.fmtOffset.toNat + 14)
  refuseIf ((channels.toUInt32 ≠ SNES_MOD_AUDIO_CHANNELS_MONO ∧
      channels.toUInt32 ≠ SNES_MOD_AUDIO_CHANNELS_STEREO) ∨
    rate < 8000 ∨ rate > 192000 ∨ bits ≠ 16 ∨ blockAlign.toUInt32 ≠ channels.toUInt32 * 2 ∨
    byteRate ≠ rate * blockAlign.toUInt32 ∨ w.dataSize % blockAlign.toUInt32 ≠ 0 ∨
    w.dataSize / blockAlign.toUInt32 > 0xffffffff)
  return ⟨w.dataOffset, w.dataSize / blockAlign.toUInt32, rate, channels.toUInt32⟩

/-- `parse_pcm_wave`. -/
def parsePcmWave (file : Bytes) (fileSize : UInt32) : Except Stop PcmWave := do
  refuseIf (fileSize < 12)
  let riff ← hasTag file 0 (tag "RIFF")
  refuseIf (riff = false)
  let wave ← hasTag file 8 (tag "WAVE")
  refuseIf (wave = false)
  let riffSize ← fetch32 file 4
  refuseIf (riffSize.toUInt64 + 8 ≠ fileSize.toUInt64)
  let w ← walkChunks file fileSize .start
  refuseIf (w.offset ≠ fileSize ∨ w.sawFmt = false ∨ w.sawData = false ∨ w.fmtSize ≠ 16 ∨
    w.dataSize = 0)
  w.parseFormat file

/-! ## The grammar -/

/-- A chunk of a RIFF file. -/
structure Chunk where
  id : Bytes
  payload : Bytes
  pad : Bytes
  named : id.length = 4
  padded : pad.length = payload.length % 2

def Chunk.bytes (c : Chunk) : Bytes :=
  c.id ++ (le32 (UInt32.ofNat c.payload.length) ++ (c.payload ++ c.pad))

/-- The payload of a format chunk of sixteen bytes. -/
structure Format where
  tag : UInt16
  channels : UInt16
  rate : UInt32
  byteRate : UInt32
  blockAlign : UInt16
  bits : UInt16

def Format.bytes (f : Format) : Bytes :=
  le16 f.tag ++
    (le16 f.channels ++ (le32 f.rate ++ (le32 f.byteRate ++ (le16 f.blockAlign ++ le16 f.bits))))

/-- The formats of a cue. -/
structure Format.Pcm (f : Format) : Prop where
  tag : f.tag = 1
  channels : f.channels = 1 ∨ f.channels = 2
  bits : f.bits = 16
  rate : 8000 ≤ f.rate.toNat ∧ f.rate.toNat ≤ 192000
  align : f.blockAlign.toNat = 2 * f.channels.toNat
  byteRate : f.byteRate.toNat = f.rate.toNat * f.blockAlign.toNat

/-- The chunks of a name. -/
def named (id : Bytes) (chunks : List Chunk) : List Chunk := chunks.filter fun c => c.id = id

/-- A file of these chunks, of which one tells the format and one holds the samples. -/
structure CueFile (file : Bytes) (chunks : List Chunk) (f : Format) (samples : Bytes) : Prop where
  riff : file = tag "RIFF" ++ (le32 (UInt32.ofNat (file.length - 8)) ++
    (tag "WAVE" ++ chunks.flatMap Chunk.bytes))
  format : (named (tag "fmt ") chunks).map Chunk.payload = [f.bytes]
  data : (named (tag "data") chunks).map Chunk.payload = [samples]
  pcm : f.Pcm
  filled : samples ≠ []
  whole : f.blockAlign.toNat ∣ samples.length

/-! ## One chunk -/

theorem Chunk.bytes_length (c : Chunk) :
    c.bytes.length = 8 + c.payload.length + c.payload.length % 2 := by
  unfold Chunk.bytes
  simp only [List.length_append, c.named, c.padded, le32_length]
  omega

theorem hasTag_at {file pre id post : Bytes} {p : Nat} (hfile : file = pre ++ (id ++ post))
    (hp : p = pre.length)
    (hid : id.length = 4) (t : Bytes) : hasTag file p t = .ok (decide (id = t)) := by
  unfold hasTag
  rw [fetchBytes_at hfile hp hid.symm]
  rfl

theorem hasTag_head {file id post : Bytes} (hfile : file = id ++ post)
    (hid : id.length = 4) (t : Bytes) :
    hasTag file 0 t = .ok (decide (id = t)) :=
  hasTag_at (List.nil_append _ ▸ hfile) List.length_nil.symm hid t

/-- The comparisons of the loop body on an identifier that is there. -/
def ChunkWalk.mark (w : ChunkWalk) (id : Bytes) (chunkSize : UInt32) : Except Stop ChunkWalk :=
  if id = tag "fmt " then w.noteFmt chunkSize
  else if id = tag "data" then w.noteData chunkSize
  else .ok w

theorem note_at {file pre id post : Bytes} {w : ChunkWalk} (hfile : file = pre ++ (id ++ post))
    (hp : w.offset.toNat = pre.length) (hid : id.length = 4) (chunkSize : UInt32) :
    w.note file chunkSize = w.mark id chunkSize := by
  unfold ChunkWalk.note ChunkWalk.mark
  rw [hasTag_at hfile hp hid, ok_bind, hasTag_at hfile hp hid]
  by_cases hfmt : id = tag "fmt "
  · simp [hfmt]
  · by_cases hdata : id = tag "data"
    · simp [hdata]
    · simp [hfmt, hdata]
      rfl

theorem walkChunks_eq (file : Bytes) (fileSize : UInt32) (w : ChunkWalk) :
    walkChunks file fileSize w =
      if w.offset < fileSize then do
        refuseIf (fileSize - w.offset < 8)
        let chunkSize ← fetch32 file (w.offset.toNat + 4)
        if nextChunk w.offset chunkSize > fileSize.toUInt64 then .error .refused
        else do
          let noted ← w.note file chunkSize
          walkChunks file fileSize { noted with offset := (nextChunk w.offset chunkSize).toUInt32 }
      else .ok w := by
  rw [walkChunks]
  split <;> rfl

section Walk

variable {file : Bytes} (hsmall : file.length < 2 ^ 32)

include hsmall

theorem fileSize_toNat : (UInt32.ofNat file.length).toNat = file.length := by
  rw [UInt32.toNat_ofNat']
  exact Nat.mod_eq_of_lt hsmall

theorem walkChunks_end {w : ChunkWalk} (h : w.offset.toNat = file.length) :
    walkChunks file (.ofNat file.length) w = .ok w := by
  rw [walkChunks_eq, if_neg]
  rw [UInt32.lt_iff_toNat_lt, fileSize_toNat hsmall]
  omega

/-- A turn of the loop whose header is inside the file. -/
theorem walkChunks_header {w : ChunkWalk} {pre id tail : Bytes} {chunkSize : UInt32}
    (hfile : file = pre ++ (id ++ (le32 chunkSize ++ tail))) (hid : id.length = 4)
    (hp : w.offset.toNat = pre.length) :
    walkChunks file (.ofNat file.length) w =
      if pre.length + 8 + chunkSize.toNat + chunkSize.toNat % 2 > file.length then .error .refused
      else w.mark id chunkSize >>= fun noted => walkChunks file (.ofNat file.length)
        { noted with offset := .ofNat (pre.length + 8 + chunkSize.toNat + chunkSize.toNat % 2) } := by
  have hlength : file.length = pre.length + (4 + (4 + tail.length)) := by
    rw [hfile]
    simp only [List.length_append, hid, le32_length]
  have hsize := fileSize_toNat hsmall
  have hbelow : w.offset < UInt32.ofNat file.length := by
    rw [UInt32.lt_iff_toNat_lt, hsize]
    omega
  have hroom : ¬ UInt32.ofNat file.length - w.offset < 8 := by
    have hle : w.offset ≤ UInt32.ofNat file.length := UInt32.le_of_lt hbelow
    rw [UInt32.lt_iff_toNat_lt, UInt32.toNat_sub_of_le _ _ hle, hsize]
    change ¬ _ < 8
    omega
  have hfetch : fetch32 file (w.offset.toNat + 4) = .ok chunkSize := by
    apply fetch32_at (a := pre ++ id) (b := tail)
    · rw [hfile, List.append_assoc]
    · rw [List.length_append, hid, hp]
  have hnext := nextChunk_toNat w.offset chunkSize
  have hoffset : (nextChunk w.offset chunkSize).toUInt32 =
      .ofNat (pre.length + 8 + chunkSize.toNat + chunkSize.toNat % 2) := by
    apply UInt32.toNat_inj.1
    rw [UInt64.toNat_toUInt32, hnext, hp, UInt32.toNat_ofNat']
  have hcond : nextChunk w.offset chunkSize > (UInt32.ofNat file.length).toUInt64 ↔
      pre.length + 8 + chunkSize.toNat + chunkSize.toNat % 2 > file.length := by
    rw [gt_iff_lt, UInt64.lt_iff_toNat_lt, UInt32.toNat_toUInt64, hsize, hnext, hp]
  rw [walkChunks_eq, if_pos hbelow, refuseIf_neg hroom, ok_bind, hfetch, ok_bind,
    note_at hfile hp hid, hoffset]
  simp only [hcond]

/-- A turn of the loop over a whole chunk. -/
theorem walkChunks_chunk {w : ChunkWalk} {pre post : Bytes} {c : Chunk}
    (hfile : file = pre ++ (c.bytes ++ post))
    (hp : w.offset.toNat = pre.length) :
    walkChunks file (.ofNat file.length) w =
      w.mark c.id (.ofNat c.payload.length) >>= fun noted => walkChunks file (.ofNat file.length)
        { noted with offset := .ofNat (pre.length + c.bytes.length) } := by
  have hlength : file.length = pre.length + (c.bytes.length + post.length) := by
    rw [hfile, List.length_append, List.length_append]
  have hbytes := c.bytes_length
  have hsize : (UInt32.ofNat c.payload.length).toNat = c.payload.length := by
    rw [UInt32.toNat_ofNat']
    exact Nat.mod_eq_of_lt (by omega)
  have hheader : file =
    pre ++ (c.id ++ (le32 (.ofNat c.payload.length) ++ (c.payload ++ (c.pad ++ post)))) := by
    rw [hfile]
    unfold Chunk.bytes
    simp only [List.append_assoc]
  rw [walkChunks_header hsmall hheader c.named hp, hsize, if_neg (by omega), hbytes]
  simp only [Nat.add_assoc]

omit hsmall in
/-- What is read where a header fits. -/
theorem exists_header {offset : Nat} (h : offset + 8 ≤ file.length) :
    ∃ id chunkSize tail, id.length = 4 ∧
    file = file.take offset ++ (id ++ (le32 chunkSize ++ tail)) := by
  have hrest : (file.drop offset).length = file.length - offset := List.length_drop
  obtain ⟨ws, hcount, hws⟩ := exists_packed 1 (((file.drop offset).drop 4).take 4)
    (by rw [List.length_take, List.length_drop, hrest]; omega)
  obtain ⟨chunkSize, rfl⟩ := List.length_eq_one_iff.1 hcount
  refine ⟨(file.drop offset).take 4, chunkSize, ((file.drop offset).drop 4).drop 4, ?_, ?_⟩
  · rw [List.length_take, hrest]
    omega
  · have hword : le32 chunkSize = ((file.drop offset).drop 4).take 4 := by
      rw [← hws, packed_cons, packed_nil, List.append_nil]
    rw [hword, List.take_append_drop, List.take_append_drop, List.take_append_drop]

omit hsmall in
/-- Behind a header whose size the file has room for there is a chunk. -/
theorem exists_chunk {pre id tail : Bytes} {chunkSize : UInt32}
    (hfile : file = pre ++ (id ++ (le32 chunkSize ++ tail))) (hid : id.length = 4)
    (hinside : pre.length + 8 + chunkSize.toNat + chunkSize.toNat % 2 ≤ file.length) :
    ∃ (c : Chunk) (post : Bytes), c.id = id ∧ c.payload.length = chunkSize.toNat ∧
      file = pre ++ (c.bytes ++ post) := by
  have hlength := congrArg List.length hfile
  simp only [List.length_append, hid, le32_length] at hlength
  have hpayload : (tail.take chunkSize.toNat).length = chunkSize.toNat := by
    rw [List.length_take]
    omega
  let c : Chunk := {
    id, payload := tail.take chunkSize.toNat
    pad := (tail.drop chunkSize.toNat).take (chunkSize.toNat % 2)
    named := hid
    padded := by
      rw [hpayload, List.length_take, List.length_drop]
      omega }
  refine ⟨c, (tail.drop chunkSize.toNat).drop (chunkSize.toNat % 2), rfl, hpayload, ?_⟩
  rw [hfile]
  unfold Chunk.bytes
  simp only [c, hpayload, UInt32.ofNat_toNat, List.append_assoc, List.take_append_drop]

omit hsmall in
theorem mark_contained (w : ChunkWalk) (id : Bytes) (chunkSize : UInt32) :
    Contained (w.mark id chunkSize) fun _ => True := by
  unfold ChunkWalk.mark ChunkWalk.noteFmt ChunkWalk.noteData
  split
  · exact Contained.refuse fun _ => Or.inr ⟨_, rfl, trivial⟩
  · split
    · exact Contained.refuse fun _ => Or.inr ⟨_, rfl, trivial⟩
    · exact Or.inr ⟨_, rfl, trivial⟩

/-- Where the walk gets through, chunks tile the rest of the file. -/
theorem walkChunks_contained : ∀ (n : Nat) (w : ChunkWalk), file.length - w.offset.toNat ≤ n →
    w.offset.toNat ≤ file.length → Contained (walkChunks file (.ofNat file.length) w)
      (fun _ => ∃ chunks : List Chunk, file.drop w.offset.toNat = chunks.flatMap Chunk.bytes) := by
  intro n
  induction n with
  | zero =>
      intro w hn hle
      have hend : w.offset.toNat = file.length := by omega
      refine Or.inr ⟨w, walkChunks_end hsmall hend, [], ?_⟩
      rw [hend, List.drop_length, List.flatMap_nil]
  | succ n ih =>
      intro w hn hle
      rcases Nat.eq_or_lt_of_le hle with hend | hlt
      · refine Or.inr ⟨w, walkChunks_end hsmall hend, [], ?_⟩
        rw [hend, List.drop_length, List.flatMap_nil]
      by_cases hheader : w.offset.toNat + 8 ≤ file.length
      · obtain ⟨id, chunkSize, tail, hid, hfile⟩ := exists_header hheader
        have htake : (file.take w.offset.toNat).length = w.offset.toNat := by
          rw [List.length_take]
          omega
        by_cases hinside : w.offset.toNat + 8 + chunkSize.toNat + chunkSize.toNat % 2 ≤ file.length
        · obtain ⟨c, post, hcid, hpayload, hchunk⟩ :=
            exists_chunk hfile hid (by rw [htake]; exact hinside)
          have hbytes := c.bytes_length
          have hnext : (UInt32.ofNat (w.offset.toNat + c.bytes.length)).toNat = w.offset.toNat +
            c.bytes.length := by
            rw [UInt32.toNat_ofNat']
            exact Nat.mod_eq_of_lt (by omega)
          have hrest : file.drop w.offset.toNat =
            c.bytes ++ file.drop (w.offset.toNat + c.bytes.length) := by
            have hsplit : file.drop w.offset.toNat = c.bytes ++ post :=
              List.append_cancel_left ((List.take_append_drop w.offset.toNat file).trans hchunk)
            rw [← List.drop_drop, hsplit, List.drop_left]
          rw [walkChunks_chunk hsmall hchunk htake.symm, htake]
          refine (mark_contained w c.id _).bind fun noted _ => ?_
          have hnoted := ih { noted with offset := .ofNat (w.offset.toNat + c.bytes.length) }
            (by dsimp only; omega) (by dsimp only; omega)
          dsimp only at hnoted
          rw [hnext] at hnoted
          rcases hnoted with hrefused | ⟨w', hw', chunks, hchunks⟩
          · exact Or.inl hrefused
          · refine Or.inr ⟨w', hw', c :: chunks, ?_⟩
            rw [List.flatMap_cons, ← hchunks, ← hrest]
        · refine Or.inl ?_
          rw [walkChunks_header hsmall hfile hid htake.symm, htake,
            if_pos (Nat.lt_of_not_le hinside)]
      · have hbelow : w.offset < UInt32.ofNat file.length := by
          rw [UInt32.lt_iff_toNat_lt, fileSize_toNat hsmall]
          exact hlt
        have hroom : UInt32.ofNat file.length - w.offset < 8 := by
          rw [UInt32.lt_iff_toNat_lt, UInt32.toNat_sub_of_le _ _ (UInt32.le_of_lt hbelow),
            fileSize_toNat hsmall]
          change _ < 8
          omega
        refine Or.inl ?_
        rw [walkChunks_eq, if_pos hbelow, refuseIf_pos hroom, error_bind]

/-! ## What the walk takes down -/

omit hsmall in
theorem named_append (id : Bytes) (as bs : List Chunk) :
    named id (as ++ bs) = named id as ++ named id bs :=
  List.filter_append _ _

omit hsmall in
theorem named_one (id : Bytes) (c : Chunk) : named id [c] = if c.id = id then [c] else [] := by
  by_cases h : c.id = id <;> simp [named, h]

/-- What the walk knows of the chunks of a name: that there is none, or where the one is. -/
def Seen (chunks : List Chunk) (id : Bytes) (saw : Bool) (offset size : UInt32) : Prop :=
  match saw with
  | false => named id chunks = []
  | true => ∃ pre c post, chunks = pre ++ c :: post ∧ named id chunks = [c] ∧
      offset.toNat = 20 + (pre.flatMap Chunk.bytes).length ∧ size.toNat = c.payload.length

omit hsmall in
theorem Seen.other {chunks : List Chunk} {id : Bytes} {saw : Bool} {offset size : UInt32}
    (h : Seen chunks id saw offset size) {c : Chunk} (hc : c.id ≠ id) :
    Seen (chunks ++ [c]) id saw offset size := by
  have hnamed : named id (chunks ++ [c]) = named id chunks := by
    rw [named_append, named_one, if_neg hc, List.append_nil]
  cases saw with
  | false => exact hnamed.trans h
  | true =>
      obtain ⟨pre, d, post, rfl, hone, hoffset, hsize⟩ := h
      exact ⟨pre, d, post ++ [c], by rw [List.append_assoc, List.cons_append], hnamed.trans hone,
        hoffset, hsize⟩

omit hsmall in
/-- The walk behind `chunks`. -/
structure Noted (w : ChunkWalk) (chunks : List Chunk) : Prop where
  offset : w.offset.toNat = 12 + (chunks.flatMap Chunk.bytes).length
  fmt : Seen chunks (tag "fmt ") w.sawFmt w.fmtOffset w.fmtSize
  data : Seen chunks (tag "data") w.sawData w.dataOffset w.dataSize

/-- More than one chunk of a name that there may be only one of. -/
def Twice (chunks : List Chunk) : Prop :=
  2 ≤ (named (tag "fmt ") chunks).length ∨ 2 ≤ (named (tag "data") chunks).length

omit hsmall in
theorem Twice.append {as : List Chunk} (h : Twice as) (bs : List Chunk) : Twice (as ++ bs) := by
  unfold Twice
  rw [named_append, named_append, List.length_append, List.length_append]
  rcases h with h | h
  · exact Or.inl (by omega)
  · exact Or.inr (by omega)

omit hsmall in
/-- The second chunk of a name is refused, and nothing else. -/
theorem Seen.found {chunks : List Chunk} {id : Bytes} {saw : Bool} {offset size : UInt32}
    (h : Seen chunks id saw offset size) {c : Chunk} (hc : c.id = id) :
    (saw = true ∧ 2 ≤ (named id (chunks ++ [c])).length) ∨
      (saw = false ∧ ∀ {offset' size' : UInt32},
        offset'.toNat = 20 + (chunks.flatMap Chunk.bytes).length →
        size'.toNat = c.payload.length → Seen (chunks ++ [c]) id true offset' size') := by
  have hnamed : named id (chunks ++ [c]) = named id chunks ++ [c] := by
    rw [named_append, named_one, if_pos hc]
  cases saw with
  | true =>
      obtain ⟨pre, d, post, -, hone, -, -⟩ := h
      exact Or.inl ⟨rfl, by rw [hnamed, hone]; exact Nat.le_refl 2⟩
  | false =>
      have hnone : named id chunks = [] := h
      refine Or.inr ⟨rfl, fun {offset' size'} hoffset hsize =>
        ⟨chunks, c, [], rfl, ?_, hoffset, hsize⟩⟩
      rw [hnamed, hnone, List.nil_append]

omit hsmall in
theorem Noted.mark {w : ChunkWalk} {chunks : List Chunk} (h : Noted w chunks) {c : Chunk}
    (hroom : 12 + ((chunks ++ [c]).flatMap Chunk.bytes).length < 2 ^ 32) :
    (∃ w', w.mark c.id (.ofNat c.payload.length) = .ok w' ∧
      Noted { w' with offset := .ofNat (12 + ((chunks ++ [c]).flatMap Chunk.bytes).length) }
        (chunks ++ [c])) ∨
    (w.mark c.id (.ofNat c.payload.length) = .error .refused ∧ Twice (chunks ++ [c])) := by
  have hbytes := c.bytes_length
  have hlength : ((chunks ++ [c]).flatMap Chunk.bytes).length =
    (chunks.flatMap Chunk.bytes).length + c.bytes.length := by
    rw [List.flatMap_append, List.length_append, List.flatMap_cons, List.flatMap_nil,
      List.append_nil]
  have hoffset : (UInt32.ofNat (12 + ((chunks ++ [c]).flatMap Chunk.bytes).length)).toNat =
      12 + ((chunks ++ [c]).flatMap Chunk.bytes).length := by
    rw [UInt32.toNat_ofNat']
    exact Nat.mod_eq_of_lt hroom
  have hsize : (UInt32.ofNat c.payload.length).toNat = c.payload.length := by
    rw [UInt32.toNat_ofNat']
    exact Nat.mod_eq_of_lt (by omega)
  have hplace : (w.offset + 8).toNat = 20 + (chunks.flatMap Chunk.bytes).length := by
    have height : (8 : UInt32).toNat = 8 := rfl
    rw [UInt32.toNat_add, h.offset, height]
    omega
  have hdistinct : tag "fmt " ≠ tag "data" := by decide
  unfold ChunkWalk.mark ChunkWalk.noteFmt ChunkWalk.noteData
  by_cases hfmt : c.id = tag "fmt "
  · rw [if_pos hfmt]
    rcases h.fmt.found hfmt with ⟨hsaw, htwice⟩ | ⟨hsaw, hseen⟩
    · exact Or.inr ⟨by rw [refuseIf_pos hsaw, error_bind], Or.inl htwice⟩
    · rw [refuseIf_neg (by rw [hsaw]; decide), ok_bind]
      exact Or.inl ⟨_, rfl, hoffset, hseen hplace hsize,
        h.data.other (by rw [hfmt]; exact hdistinct)⟩
  · rw [if_neg hfmt]
    by_cases hdata : c.id = tag "data"
    · rw [if_pos hdata]
      rcases h.data.found hdata with ⟨hsaw, htwice⟩ | ⟨hsaw, hseen⟩
      · exact Or.inr ⟨by rw [refuseIf_pos hsaw, error_bind], Or.inr htwice⟩
      · rw [refuseIf_neg (by rw [hsaw]; decide), ok_bind]
        exact Or.inl ⟨_, rfl, hoffset, h.fmt.other hfmt, hseen hplace hsize⟩
    · rw [if_neg hdata]
      exact Or.inl ⟨w, rfl, hoffset, h.fmt.other hfmt, h.data.other hdata⟩

/-- The walk over chunks that tile the file. -/
theorem Noted.walk {head : Bytes} (hhead : head.length = 12) :
    ∀ (rest : List Chunk) {chunks : List Chunk}
    {w : ChunkWalk}, Noted w chunks → file = head ++ (chunks ++ rest).flatMap Chunk.bytes →
    (∃ w', walkChunks file (.ofNat file.length) w = .ok w' ∧ w'.offset.toNat = file.length ∧
      Noted w' (chunks ++ rest)) ∨
    (walkChunks file (.ofNat file.length) w = .error .refused ∧ Twice (chunks ++ rest)) := by
  intro rest
  induction rest with
  | nil =>
      intro chunks w h hfile
      rw [List.append_nil] at hfile ⊢
      have hend : w.offset.toNat = file.length := by
        rw [h.offset, hfile, List.length_append, hhead]
      exact Or.inl ⟨w, walkChunks_end hsmall hend, hend, h⟩
  | cons c rest ih =>
      intro chunks w h hfile
      have hjoin : chunks ++ c :: rest = (chunks ++ [c]) ++ rest := by
        rw [List.append_assoc, List.cons_append, List.nil_append]
      have hsplit : file = (head ++ chunks.flatMap Chunk.bytes) ++
        (c.bytes ++ rest.flatMap Chunk.bytes) := by
        rw [hfile, List.flatMap_append, List.flatMap_cons, List.append_assoc]
      have hbefore : w.offset.toNat = (head ++ chunks.flatMap Chunk.bytes).length := by
        rw [h.offset, List.length_append, hhead]
      have hafter : (head ++ chunks.flatMap Chunk.bytes).length + c.bytes.length =
          12 + ((chunks ++ [c]).flatMap Chunk.bytes).length := by
        simp only [List.length_append, hhead, List.flatMap_append, List.flatMap_cons,
          List.flatMap_nil, List.append_nil]
        omega
      rw [hjoin] at hfile ⊢
      rw [walkChunks_chunk hsmall hsplit hbefore, hafter]
      have hroom : 12 + ((chunks ++ [c]).flatMap Chunk.bytes).length < 2 ^ 32 := by
        have hlength := congrArg List.length hfile
        rw [List.length_append, hhead, List.flatMap_append, List.length_append] at hlength
        omega
      rcases h.mark hroom with ⟨w', hmark, hnoted⟩ | ⟨hmark, htwice⟩
      · rw [hmark, ok_bind]
        exact ih hnoted hfile
      · rw [hmark, error_bind]
        exact Or.inr ⟨rfl, htwice.append rest⟩

end Walk

/-! ## The format -/

theorem le32_halves (w : UInt32) : le32 w = le16 w.toUInt16 ++ le16 (w >>> 16).toUInt16 := by
  have h₁ : (w >>> 8).toUInt8 = (w.toUInt16 >>> 8).toUInt8 := by
    apply UInt8.toBitVec_inj.1
    ext i hi
    simp
    grind
  have h₂ : (w >>> 24).toUInt8 = ((w >>> 16).toUInt16 >>> 8).toUInt8 := by
    apply UInt8.toBitVec_inj.1
    ext i hi
    simp
    grind
  rw [le32, le16, le16, h₁, h₂]
  simp

/-- Sixteen bytes are a format. -/
theorem exists_format {bs : Bytes} (h : bs.length = 16) : ∃ f : Format, f.bytes = bs := by
  obtain ⟨ws, hcount, rfl⟩ := exists_packed 4 bs h
  obtain ⟨a, b, c, d, rfl⟩ : ∃ a b c d, ws = [a, b, c, d] := by
    match ws, hcount with
    | [a, b, c, d], _ => exact ⟨a, b, c, d, rfl⟩
  refine ⟨⟨a.toUInt16, (a >>> 16).toUInt16, b, c, d.toUInt16, (d >>> 16).toUInt16⟩, ?_⟩
  unfold Format.bytes
  simp only [packed_cons, packed_nil, le32_halves a, le32_halves d, List.append_assoc,
    List.append_nil]

/-- The conditions of the parser on the fields. -/
def Format.refused (f : Format) (dataSize : UInt32) : Prop :=
  (f.channels.toUInt32 ≠ SNES_MOD_AUDIO_CHANNELS_MONO ∧
    f.channels.toUInt32 ≠ SNES_MOD_AUDIO_CHANNELS_STEREO) ∨
    f.rate < 8000 ∨ f.rate > 192000 ∨ f.bits ≠ 16 ∨ f.blockAlign.toUInt32 ≠
      f.channels.toUInt32 * 2 ∨
    f.byteRate ≠ f.rate * f.blockAlign.toUInt32 ∨ dataSize % f.blockAlign.toUInt32 ≠ 0 ∨
    dataSize / f.blockAlign.toUInt32 > 0xffffffff

instance (f : Format) (dataSize : UInt32) : Decidable (f.refused dataSize) :=
  inferInstanceAs (Decidable (_ ∨ _))

theorem parseFormat_at {file pre post : Bytes} {w : ChunkWalk} {f : Format}
    (hfile : file = pre ++ (f.bytes ++ post))
    (hp : w.fmtOffset.toNat = pre.length) :
    w.parseFormat file = refuseIf (f.tag ≠ 1) >>= fun _ =>
    refuseIf (f.refused w.dataSize) >>= fun _ =>
      .ok ⟨w.dataOffset, w.dataSize / f.blockAlign.toUInt32, f.rate, f.channels.toUInt32⟩ := by
  unfold Format.bytes at hfile
  simp only [List.append_assoc] at hfile
  unfold ChunkWalk.parseFormat
  rw [fetch16_at (w := f.tag) hfile hp,
    fetch16_at (a := pre ++ le16 f.tag) (w := f.channels) (by rw [hfile, List.append_assoc])
      (by simp [hp]),
    fetch32_at (a := pre ++ (le16 f.tag ++ le16 f.channels)) (w := f.rate)
      (by rw [hfile, List.append_assoc, List.append_assoc]) (by simp [hp]),
    fetch32_at (a := pre ++ (le16 f.tag ++ (le16 f.channels ++ le32 f.rate))) (w := f.byteRate)
      (b := le16 f.blockAlign ++ (le16 f.bits ++ post))
        (by rw [hfile]; simp only [List.append_assoc]) (by simp [hp]),
    fetch16_at (a := pre ++ (le16 f.tag ++ (le16 f.channels ++ (le32 f.rate ++ le32 f.byteRate))))
      (w := f.blockAlign)
      (b := le16 f.bits ++ post) (by rw [hfile]; simp only [List.append_assoc]) (by simp [hp]),
    fetch16_at
      (a := pre ++
      (le16 f.tag ++ (le16 f.channels ++ (le32 f.rate ++ (le32 f.byteRate ++ le16 f.blockAlign)))))
      (w := f.bits) (b := post) (by rw [hfile]; simp only [List.append_assoc]) (by simp [hp])]
  rfl

/-- What the parser asks of the fields is what a cue is. -/
theorem Format.pcm_iff (f : Format) (dataSize : UInt32) :
    f.tag = 1 ∧ ¬ f.refused dataSize ↔ f.Pcm ∧ f.blockAlign.toNat ∣ dataSize.toNat := by
  have hrate : (8000 : UInt32).toNat = 8000 ∧ (192000 : UInt32).toNat = 192000 := ⟨rfl, rfl⟩
  have hmono : f.channels.toUInt32 = SNES_MOD_AUDIO_CHANNELS_MONO ↔ f.channels = 1 := by
    rw [← UInt32.toNat_inj, ← UInt16.toNat_inj, UInt16.toNat_toUInt32]
    rfl
  have hstereo : f.channels.toUInt32 = SNES_MOD_AUDIO_CHANNELS_STEREO ↔ f.channels = 2 := by
    rw [← UInt32.toNat_inj, ← UInt16.toNat_inj, UInt16.toNat_toUInt32]
    rfl
  have halign : f.blockAlign.toUInt32 = f.channels.toUInt32 * 2 ↔
    f.blockAlign.toNat = 2 * f.channels.toNat := by
    have hchannels := f.channels.toNat_lt
    have htwo : (2 : UInt32).toNat = 2 := rfl
    rw [← UInt32.toNat_inj, UInt16.toNat_toUInt32, UInt32.toNat_mul, UInt16.toNat_toUInt32, htwo]
    omega
  have hwhole : dataSize % f.blockAlign.toUInt32 = 0 ↔ f.blockAlign.toNat ∣ dataSize.toNat := by
    rw [← UInt32.toNat_inj, UInt32.toNat_mod, UInt16.toNat_toUInt32]
    exact (Nat.dvd_iff_mod_eq_zero ..).symm
  have hfits : ¬ dataSize / f.blockAlign.toUInt32 > 0xffffffff := by
    have hlt := (dataSize / f.blockAlign.toUInt32).toNat_lt
    rw [gt_iff_lt, UInt32.lt_iff_toNat_lt]
    change ¬ 4294967295 < _
    omega
  have hbytes : (f.channels = 1 ∨ f.channels = 2) → f.rate.toNat ≤ 192000 →
      f.blockAlign.toNat = 2 * f.channels.toNat →
      (f.byteRate = f.rate * f.blockAlign.toUInt32 ↔
        f.byteRate.toNat = f.rate.toNat * f.blockAlign.toNat) := by
    intro hchannels hle hblock
    have htwo : f.channels.toNat ≤ 2 := by
      rcases hchannels with h | h
      · rw [h]; decide
      · rw [h]; decide
    have hproduct : f.rate.toNat * f.blockAlign.toNat ≤ 192000 * 4 := Nat.mul_le_mul hle (by omega)
    rw [← UInt32.toNat_inj, UInt32.toNat_mul, UInt16.toNat_toUInt32, Nat.mod_eq_of_lt (by omega)]
  unfold Format.refused
  simp only [not_or, not_and_or, not_not, hmono, hstereo, halign, hwhole, UInt32.lt_iff_toNat_lt,
    gt_iff_lt, hrate]
  constructor
  · rintro ⟨htag, hchannels, hlow, hhigh, hbits, hblock, hbyteRate, hdata, -⟩
    exact ⟨⟨htag, hchannels, hbits, ⟨Nat.le_of_not_lt hlow, Nat.le_of_not_lt hhigh⟩, hblock,
      (hbytes hchannels (Nat.le_of_not_lt hhigh) hblock).1 hbyteRate⟩, hdata⟩
  · rintro ⟨⟨htag, hchannels, hbits, ⟨hlow, hhigh⟩, hblock, hbyteRate⟩, hdata⟩
    refine ⟨htag, hchannels, Nat.not_lt_of_le hlow, Nat.not_lt_of_le hhigh, hbits, hblock,
      (hbytes hchannels hhigh hblock).2 hbyteRate, hdata, ?_⟩
    rw [← UInt32.lt_iff_toNat_lt]
    exact hfits

/-! ## The parser and the grammar -/

/-- The frame around the chunks. -/
def Riff (file : Bytes) (chunks : List Chunk) : Prop :=
  file = tag "RIFF" ++
    (le32 (UInt32.ofNat (file.length - 8)) ++ (tag "WAVE" ++ chunks.flatMap Chunk.bytes))

/-- Where a noted chunk lies. -/
theorem Seen.place {file : Bytes} {chunks : List Chunk} {id : Bytes} {offset size : UInt32}
    (h : Seen chunks id true offset size) (hfile : Riff file chunks) :
    ∃ c pre post, named id chunks = [c] ∧ size.toNat = c.payload.length ∧
    file = pre ++ (c.payload ++ post) ∧
      offset.toNat = pre.length := by
  obtain ⟨before, c, behind, rfl, hone, hoffset, hsize⟩ := h
  refine ⟨c,
    tag "RIFF" ++
    (le32 (UInt32.ofNat (file.length - 8)) ++ (tag "WAVE" ++ (before.flatMap Chunk.bytes ++
    (c.id ++ le32 (UInt32.ofNat c.payload.length))))), c.pad ++ behind.flatMap Chunk.bytes, hone,
    hsize, ?_, ?_⟩
  · unfold Riff at hfile
    rw [List.flatMap_append, List.flatMap_cons] at hfile
    conv_lhs => rw [hfile]
    unfold Chunk.bytes
    simp only [List.append_assoc]
  · have htags : (tag "RIFF").length = 4 ∧ (tag "WAVE").length = 4 := by decide
    simp only [List.length_append, htags, le32_length, c.named]
    omega

section Parse

variable {file : Bytes} (hsmall : file.length < 2 ^ 32)

include hsmall

/-- What is not framed as a RIFF file of chunks is refused. -/
theorem refused_or_riff : parsePcmWave file (.ofNat file.length) = .error .refused ∨
    ∃ chunks, Riff file chunks := by
  have hsize := fileSize_toNat hsmall
  unfold parsePcmWave
  by_cases hshort : file.length < 12
  · refine Or.inl ?_
    rw [refuseIf_pos, error_bind]
    rw [UInt32.lt_iff_toNat_lt, hsize]
    exact hshort
  have hlong : ¬ UInt32.ofNat file.length < 12 := by
    rw [UInt32.lt_iff_toNat_lt, hsize]
    exact hshort
  obtain ⟨riff, riffSize, tail, hriff, hfile⟩ := exists_header (show 0 + 8 ≤ file.length by omega)
  rw [List.take_zero, List.nil_append] at hfile
  have hlength := congrArg List.length hfile
  simp only [List.length_append, hriff, le32_length] at hlength
  have hwave : (tail.take 4).length = 4 := by
    rw [List.length_take]
    omega
  have hsplit : file = (riff ++ le32 riffSize) ++ (tail.take 4 ++ tail.drop 4) := by
    rw [List.take_append_drop, List.append_assoc]
    exact hfile
  have hfetch : fetch32 file 4 = .ok riffSize := fetch32_at hfile hriff.symm
  rw [refuseIf_neg hlong, ok_bind, hasTag_head hfile hriff, ok_bind]
  by_cases hone : riff = tag "RIFF"
  swap
  · exact Or.inl (by rw [refuseIf_pos (decide_eq_false hone), error_bind])
  rw [refuseIf_neg (by rw [decide_eq_true hone]; decide), ok_bind,
    hasTag_at hsplit (by rw [List.length_append, hriff, le32_length]) hwave, ok_bind]
  by_cases htwo : tail.take 4 = tag "WAVE"
  swap
  · exact Or.inl (by rw [refuseIf_pos (decide_eq_false htwo), error_bind])
  rw [refuseIf_neg (by rw [decide_eq_true htwo]; decide), ok_bind, hfetch, ok_bind]
  by_cases hthree : riffSize.toUInt64 + 8 = (UInt32.ofNat file.length).toUInt64
  swap
  · exact Or.inl (by rw [refuseIf_pos hthree, error_bind])
  have hriffSize : riffSize = .ofNat (file.length - 8) := by
    have hsum := congrArg UInt64.toNat hthree
    have hriffSize := riffSize.toNat_lt
    have height : (8 : UInt64).toNat = 8 := rfl
    rw [UInt64.toNat_add, UInt32.toNat_toUInt64, UInt32.toNat_toUInt64, hsize, height] at hsum
    apply UInt32.toNat_inj.1
    rw [UInt32.toNat_ofNat', Nat.mod_eq_of_lt (by omega)]
    omega
  rw [refuseIf_neg (not_not_intro hthree), ok_bind]
  have htwelve : ChunkWalk.start.offset.toNat = 12 := rfl
  rcases walkChunks_contained hsmall file.length .start (by omega) (by omega) with hrefused
    | ⟨w, -, chunks, hchunks⟩
  · exact Or.inl (by rw [hrefused, error_bind])
  · refine Or.inr ⟨chunks, ?_⟩
    have hdrop : file.drop 12 = tail.drop 4 := by
      have hhead : (riff ++ (le32 riffSize ++ tail.take 4)).length = 12 := by
        simp only [List.length_append, hriff, le32_length, hwave]
      have hthrough : file = (riff ++ (le32 riffSize ++ tail.take 4)) ++ tail.drop 4 := by
        rw [hsplit]
        simp only [List.append_assoc]
      rw [← hhead]
      conv_lhs => rw [hthrough]
      exact List.drop_left
    unfold Riff
    rw [← hchunks, htwelve, hdrop, ← hriffSize, ← hone, ← htwo, List.take_append_drop]
    exact hfile

/-- The parser on a framed file. -/
theorem parsePcmWave_riff {chunks : List Chunk} (hfile : Riff file chunks) :
    (parsePcmWave file (.ofNat file.length) = .error .refused ∧ Twice chunks) ∨
    ∃ w, Noted w chunks ∧ parsePcmWave file (.ofNat file.length) =
      refuseIf (w.sawFmt = false ∨ w.sawData = false ∨ w.fmtSize ≠ 16 ∨ w.dataSize = 0) >>= fun _ =>
        w.parseFormat file := by
  have hsize := fileSize_toNat hsmall
  have htags : (tag "RIFF").length = 4 ∧ (tag "WAVE").length = 4 := by decide
  have hlength : file.length = 12 + (chunks.flatMap Chunk.bytes).length := by
    have h := congrArg List.length hfile
    simp only [List.length_append, htags, le32_length] at h
    omega
  have hlong : ¬ UInt32.ofNat file.length < 12 := by
    rw [UInt32.lt_iff_toNat_lt, hsize]
    change ¬ _ < 12
    omega
  have hframe : file = (tag "RIFF" ++ le32 (UInt32.ofNat (file.length - 8))) ++
      (tag "WAVE" ++ chunks.flatMap Chunk.bytes) := by
    rw [List.append_assoc]
    exact hfile
  have hriffSize : ¬ (UInt32.ofNat (file.length - 8)).toUInt64 + 8 ≠
    (UInt32.ofNat file.length).toUInt64 := by
    refine not_not_intro (UInt64.toNat_inj.1 ?_)
    have height : (8 : UInt64).toNat = 8 := rfl
    rw [UInt64.toNat_add, UInt32.toNat_toUInt64, UInt32.toNat_toUInt64, hsize,
      UInt32.toNat_ofNat', height]
    omega
  have hstart : Noted .start [] := ⟨rfl, rfl, rfl⟩
  have hhead : (tag "RIFF" ++ (le32 (UInt32.ofNat (file.length - 8)) ++ tag "WAVE")).length =
    12 := by
    simp only [List.length_append, htags, le32_length]
  have hwalk := hstart.walk hsmall hhead chunks
    (by rw [List.append_assoc, List.append_assoc]; exact hfile)
  unfold parsePcmWave
  rw [refuseIf_neg hlong, ok_bind, hasTag_head hfile htags.1, ok_bind,
    refuseIf_neg (by decide), ok_bind,
    hasTag_at hframe (by rw [List.length_append, htags.1, le32_length]) htags.2, ok_bind,
    refuseIf_neg (by decide), ok_bind, fetch32_at hfile htags.1.symm, ok_bind,
    refuseIf_neg hriffSize, ok_bind]
  rcases hwalk with ⟨w, hw, hoffset, hnoted⟩ | ⟨hrefused, htwice⟩
  · refine Or.inr ⟨w, hnoted, ?_⟩
    have hend : w.offset = UInt32.ofNat file.length := UInt32.toNat_inj.1 (hoffset.trans hsize.symm)
    rw [hw, ok_bind]
    simp only [hend, ne_eq, not_true_eq_false, false_or]
  · exact Or.inl ⟨by rw [hrefused, error_bind], htwice⟩

end Parse

theorem le16_injective : Function.Injective le16 := by
  intro a b h
  injection h with h₀ h
  injection h with h₁ h
  rw [← ofLe16_le16 a, h₀, h₁, ofLe16_le16]

theorem le32_injective : Function.Injective le32 := by
  intro a b h
  injection h with h₀ h
  injection h with h₁ h
  injection h with h₂ h
  injection h with h₃ h
  rw [← ofLe32_le32 a, h₀, h₁, h₂, h₃, ofLe32_le32]

theorem Format.bytes_injective : Function.Injective Format.bytes := by
  intro f g h
  obtain ⟨htag, h⟩ := List.append_inj h rfl
  obtain ⟨hchannels, h⟩ := List.append_inj h rfl
  obtain ⟨hrate, h⟩ := List.append_inj h rfl
  obtain ⟨hbyteRate, h⟩ := List.append_inj h rfl
  obtain ⟨halign, hbits⟩ := List.append_inj h rfl
  cases f
  cases g
  rw [Format.mk.injEq]
  exact ⟨le16_injective htag, le16_injective hchannels, le32_injective hrate,
    le32_injective hbyteRate, le16_injective halign, le16_injective hbits⟩

/-- What the parser hands out of a cue file: the rate and the channels, and the frames of the data
chunk. -/
structure Delivers (file : Bytes) (f : Format) (samples : Bytes) (wave : PcmWave) : Prop where
  frames : wave.frames.toNat = samples.length / f.blockAlign.toNat
  rate : wave.rate = f.rate
  channels : wave.channels = f.channels.toUInt32
  inside : wave.samples.toNat + wave.frames.toNat * f.blockAlign.toNat ≤ file.length
  window : (file.drop wave.samples.toNat).take (wave.frames.toNat * f.blockAlign.toNat) = samples

theorem Seen.saw {chunks : List Chunk} {id : Bytes} {saw : Bool} {offset size : UInt32}
    (h : Seen chunks id saw offset size) (hsome : named id chunks ≠ []) : saw = true := by
  cases saw with
  | true => rfl
  | false => exact absurd h hsome

section Verdict

variable {file : Bytes} {chunks : List Chunk} {w : ChunkWalk} {c d : Chunk} {f : Format}
  {samples : Bytes}

/-- The one format and the one data chunk that a walk has noted, and where they lie. -/
structure Placed (file : Bytes) (chunks : List Chunk) (w : ChunkWalk) (c d : Chunk) : Prop where
  format : named (tag "fmt ") chunks = [c]
  data : named (tag "data") chunks = [d]
  fmtSize : w.fmtSize.toNat = c.payload.length
  dataSize : w.dataSize.toNat = d.payload.length
  fmtAt : ∃ pre post, file = pre ++ (c.payload ++ post) ∧ w.fmtOffset.toNat = pre.length
  dataAt : ∃ pre post, file = pre ++ (d.payload ++ post) ∧ w.dataOffset.toNat = pre.length

theorem Noted.placed (hw : Noted w chunks) (hfile : Riff file chunks) (hfmt : w.sawFmt = true)
    (hdata : w.sawData = true) : ∃ c d, Placed file chunks w c d := by
  have hseen := hw.fmt
  have hseen' := hw.data
  rw [hfmt] at hseen
  rw [hdata] at hseen'
  obtain ⟨c, pre, post, hcone, hcsize, hcfile, hcoffset⟩ := hseen.place hfile
  obtain ⟨d, before, behind, hdone, hdsize, hdfile, hdoffset⟩ := hseen'.place hfile
  exact ⟨c, d, hcone, hdone, hcsize, hdsize, ⟨pre, post, hcfile, hcoffset⟩, before, behind,
    hdfile, hdoffset⟩

/-- The walk over a cue file has seen both chunks. -/
theorem CueFile.seen (h : CueFile file chunks f samples) (hw : Noted w chunks) :
    w.sawFmt = true ∧ w.sawData = true := by
  refine ⟨hw.fmt.saw fun hnone => ?_, hw.data.saw fun hnone => ?_⟩
  · have hformat := h.format
    rw [hnone] at hformat
    cases hformat
  · have hsamples := h.data
    rw [hnone] at hsamples
    cases hsamples

/-- They hold the format and the samples. -/
theorem CueFile.payloads (h : CueFile file chunks f samples) (hp : Placed file chunks w c d) :
    c.payload = f.bytes ∧ d.payload = samples := by
  have hformat := h.format
  have hsamples := h.data
  rw [hp.format, List.map_cons, List.map_nil] at hformat
  rw [hp.data, List.map_cons, List.map_nil] at hsamples
  exact ⟨(List.cons.inj hformat).1, (List.cons.inj hsamples).1⟩

theorem CueFile.sizes (h : CueFile file chunks f samples) (hp : Placed file chunks w c d) :
    w.fmtSize = 16 ∧ w.dataSize ≠ 0 := by
  obtain ⟨hformat, hsamples⟩ := h.payloads hp
  constructor
  · apply UInt32.toNat_inj.1
    rw [hp.fmtSize, hformat]
    rfl
  · intro hempty
    apply h.filled
    apply List.length_eq_zero_iff.1
    rw [← hsamples, ← hp.dataSize, hempty]
    rfl

/-- The fields of a cue file pass. -/
theorem CueFile.good (h : CueFile file chunks f samples) (hp : Placed file chunks w c d) :
    f.tag = 1 ∧ ¬ f.refused w.dataSize := by
  refine (f.pcm_iff w.dataSize).2 ⟨h.pcm, ?_⟩
  rw [hp.dataSize, (h.payloads hp).2]
  exact h.whole

/-- Fields that pass are those of a cue file, of which the parser delivers the samples. -/
theorem Placed.delivers (hp : Placed file chunks w c d) (hfile : Riff file chunks)
    (hf : f.bytes = c.payload)
    (hfilled : w.dataSize ≠ 0) (hgood : f.tag = 1 ∧ ¬ f.refused w.dataSize) :
    CueFile file chunks f d.payload ∧
      Delivers file f d.payload
        ⟨w.dataOffset, w.dataSize / f.blockAlign.toUInt32, f.rate, f.channels.toUInt32⟩ := by
  obtain ⟨hpcm, hwhole⟩ := (f.pcm_iff w.dataSize).1 hgood
  obtain ⟨pre, post, hdfile, hdoffset⟩ := hp.dataAt
  have hframes : (w.dataSize / f.blockAlign.toUInt32).toNat =
    d.payload.length / f.blockAlign.toNat := by
    rw [UInt32.toNat_div, UInt16.toNat_toUInt32, hp.dataSize]
  have hexact : (w.dataSize / f.blockAlign.toUInt32).toNat * f.blockAlign.toNat =
    d.payload.length := by
    rw [hframes]
    exact Nat.div_mul_cancel (hp.dataSize ▸ hwhole)
  refine ⟨⟨hfile, ?_, ?_, hpcm, ?_, hp.dataSize ▸ hwhole⟩, hframes, rfl, rfl, ?_, ?_⟩
  · rw [hp.format, hf]
    rfl
  · rw [hp.data]
    rfl
  · intro hnil
    apply hfilled
    apply UInt32.toNat_inj.1
    rw [hp.dataSize, hnil]
    rfl
  · dsimp only
    rw [hexact, hdoffset]
    conv_rhs => rw [hdfile]
    simp only [List.length_append]
    omega
  · dsimp only
    rw [hexact, hdoffset]
    conv_lhs => rw [hdfile]
    rw [List.drop_left, List.take_left]

/-- The verdict on a framed file is that of the grammar. -/
theorem Noted.verdict (hw : Noted w chunks) (hfile : Riff file chunks)
    {verdict : Except Stop PcmWave}
    (hverdict : verdict = refuseIf (w.sawFmt = false ∨ w.sawData = false ∨ w.fmtSize ≠ 16 ∨
      w.dataSize = 0) >>= fun _ =>
      w.parseFormat file) :
    (verdict = .error .refused ∧ ∀ f samples, ¬ CueFile file chunks f samples) ∨
      ∃ wave f samples, verdict = .ok wave ∧ CueFile file chunks f samples ∧
      Delivers file f samples wave := by
  by_cases hearly : w.sawFmt = false ∨ w.sawData = false ∨ w.fmtSize ≠ 16 ∨ w.dataSize = 0
  · refine Or.inl ⟨by rw [hverdict, refuseIf_pos hearly, error_bind], fun f samples h => ?_⟩
    obtain ⟨hfmt, hdata⟩ := h.seen hw
    obtain ⟨c, d, hp⟩ := hw.placed hfile hfmt hdata
    obtain ⟨hsixteen, hfilled⟩ := h.sizes hp
    simp [hfmt, hdata, hsixteen, hfilled] at hearly
  rw [refuseIf_neg hearly, ok_bind] at hverdict
  simp only [not_or, Bool.not_eq_false, not_not] at hearly
  obtain ⟨hfmt, hdata, hsixteen, hfilled⟩ := hearly
  obtain ⟨c, d, hp⟩ := hw.placed hfile hfmt hdata
  obtain ⟨f, hf⟩ := exists_format (show c.payload.length = 16 by rw [← hp.fmtSize, hsixteen]; rfl)
  obtain ⟨pre, post, hcfile, hcoffset⟩ := hp.fmtAt
  rw [← hf] at hcfile
  rw [parseFormat_at hcfile hcoffset] at hverdict
  by_cases hgood : f.tag = 1 ∧ ¬ f.refused w.dataSize
  · obtain ⟨hcue, hdelivers⟩ := hp.delivers hfile hf hfilled hgood
    rw [refuseIf_neg (not_not_intro hgood.1), ok_bind, refuseIf_neg hgood.2, ok_bind] at hverdict
    exact Or.inr ⟨_, f, d.payload, hverdict, hcue, hdelivers⟩
  · refine Or.inl ⟨?_, fun g samples h => hgood ?_⟩
    · rw [hverdict]
      by_cases htag : f.tag = 1
      · rw [refuseIf_neg (not_not_intro htag), ok_bind, refuseIf_pos, error_bind]
        by_contra hfine
        exact hgood ⟨htag, hfine⟩
      · rw [refuseIf_pos htag, error_bind]
    · rw [Format.bytes_injective (hf.trans (h.payloads hp).1)]
      exact h.good hp

end Verdict

theorem CueFile.once {file : Bytes} {chunks : List Chunk} {f : Format} {samples : Bytes}
    (h : CueFile file chunks f samples) : ¬ Twice chunks := by
  have hformat := congrArg List.length h.format
  have hdata := congrArg List.length h.data
  rw [List.length_map, List.length_singleton] at hformat hdata
  rintro (htwice | htwice) <;> omega

/-- The parser ends and stays inside the file; it accepts the cue files and no others, and hands out
the window of the data chunk. -/
theorem parsePcmWave_iff {file : Bytes} (h : file.length ≤ SMW_FALCON_AUDIO_MAX_WAV_BYTES) :
    (∀ stop, parsePcmWave file (.ofNat file.length) = .error stop → stop = .refused) ∧
    ((∃ wave, parsePcmWave file (.ofNat file.length) = .ok wave) ↔
      ∃ chunks f samples, CueFile file chunks f samples) ∧
    ∀ wave, parsePcmWave file (.ofNat file.length) = .ok wave →
      ∀ chunks f samples, CueFile file chunks f samples → Delivers file f samples wave := by
  have hsmall : file.length < 2 ^ 32 := Nat.lt_of_le_of_lt h (by decide)
  -- what the parser says of chunks that tile the file
  have hriff : ∀ {chunks}, Riff file chunks →
      (parsePcmWave file (.ofNat file.length) = .error .refused ∧ ∀ f samples,
        ¬ CueFile file chunks f samples) ∨
      ∃ wave f samples, parsePcmWave file (.ofNat file.length) = .ok wave ∧
      CueFile file chunks f samples ∧
        Delivers file f samples wave := by
    intro chunks hfile
    rcases parsePcmWave_riff hsmall hfile with ⟨hrefused, htwice⟩ | ⟨w, hw, hverdict⟩
    · exact Or.inl ⟨hrefused, fun f samples hcue => hcue.once htwice⟩
    · exact hw.verdict hfile hverdict
  refine ⟨fun stop hstop => ?_, ⟨fun ⟨wave, hwave⟩ => ?_, fun ⟨chunks, f, samples, hcue⟩ => ?_⟩,
    fun wave hwave chunks f samples hcue => ?_⟩
  · rcases refused_or_riff hsmall with hrefused | ⟨chunks, hfile⟩
    · rw [hrefused] at hstop
      exact (Except.error.inj hstop).symm
    · rcases hriff hfile with ⟨hrefused, -⟩ | ⟨wave, f, samples, hok, -⟩
      · rw [hrefused] at hstop
        exact (Except.error.inj hstop).symm
      · rw [hok] at hstop
        cases hstop
  · rcases refused_or_riff hsmall with hrefused | ⟨chunks, hfile⟩
    · rw [hrefused] at hwave
      cases hwave
    · rcases hriff hfile with ⟨hrefused, -⟩ | ⟨wave', f, samples, hok, hcue, -⟩
      · rw [hrefused] at hwave
        cases hwave
      · exact ⟨chunks, f, samples, hcue⟩
  · rcases hriff hcue.riff with ⟨-, hnone⟩ | ⟨wave, f', samples', hok, -⟩
    · exact absurd hcue (hnone f samples)
    · exact ⟨wave, hok⟩
  · rcases hriff hcue.riff with ⟨-, hnone⟩ | ⟨wave', f', samples', hok, hcue', hdelivers⟩
    · exact absurd hcue (hnone f samples)
    · rw [hwave] at hok
      cases hok
      have hformat := hcue.format
      rw [hcue'.format] at hformat
      have hdata := hcue.data
      rw [hcue'.data] at hdata
      rwa [Format.bytes_injective (List.cons.inj hformat).1, (List.cons.inj hdata).1] at hdelivers

/-- One frame, with the samples in front of the format and a padded chunk between them. -/
def shortCue : List Chunk :=
  [⟨tag "data", [1, 2], [], rfl, rfl⟩, ⟨tag "note", [7], [0], rfl, rfl⟩,
    ⟨tag "fmt ", (⟨1, 1, 8000, 16000, 2, 16⟩ : Format).bytes, [], rfl, rfl⟩]

theorem parsePcmWave_iff_short : ∃ file, Riff file shortCue ∧
    ∃ wave, parsePcmWave file (.ofNat file.length) = .ok wave ∧
    wave.samples.toNat + wave.frames.toNat * 2 ≤ file.length := by
  let file := tag "RIFF" ++ (le32 48 ++ (tag "WAVE" ++ shortCue.flatMap Chunk.bytes))
  have hlength : file.length ≤ SMW_FALCON_AUDIO_MAX_WAV_BYTES := by decide +kernel
  have hcue : CueFile file shortCue ⟨1, 1, 8000, 16000, 2, 16⟩ [1, 2] :=
    ⟨by decide +kernel, by decide +kernel, by decide +kernel,
      ⟨rfl, Or.inl rfl, rfl, by decide, by decide, by decide⟩,
      by decide, by decide⟩
  obtain ⟨-, haccepts, hdelivers⟩ := parsePcmWave_iff hlength
  obtain ⟨wave, hwave⟩ := haccepts.2 ⟨shortCue, _, _, hcue⟩
  exact ⟨file, hcue.riff, wave, hwave, (hdelivers wave hwave _ _ _ hcue).inside⟩

end SmwRecomp.Audio
