import SmwRecomp.Coop.Codec
import SmwRecomp.Coop.Valid

/-!
# Session snapshots, both directions

* `sessionImage` — the bytes of a saved session.
* `coopSessionSave_image`, `readSession_image` — saving writes it, loading it gives the session
  back.
* `readSession_cases` — whatever a load accepts is the image of what it delivers.
* `session_codec` — the codec is a bijection on its image.
-/

set_option autoImplicit false

namespace SmwRecomp.Coop

/-! ## Images -/

/-- A body and its checksum. -/
def sealBytes (body : Bytes) : Bytes := body ++ le32 (checksum body)

/-- The five words in front of the session's own. -/
def headerWords (count events actions : UInt32) : List UInt32 :=
  [COOP_STATE_MAGIC, COOP_STATE_VERSION, count, events, actions]

def sessionHeader (s : CoopSession) : List UInt32 :=
  headerWords (UInt32.ofNat s.players.length) (UInt32.ofNat s.events.length)
    (UInt32.ofNat s.actions.length)

def sessionImage (s : CoopSession) : Bytes :=
  sealBytes (packed (sessionHeader s ++ sessionWords s))

theorem sealBytes_length (body : Bytes) : (sealBytes body).length = body.length + 4 := by
  rw [sealBytes, List.length_append, le32_length]

theorem sessionImage_length (s : CoopSession) : (sessionImage s).length =
    140 + 96 * s.players.length + 28 * s.events.length + 16 * s.actions.length := by
  rw [sessionImage, sealBytes_length, packed_length, List.length_append, sessionWords_length]
  show 4 * (5 + _) + 4 = _
  omega

/-- For counts of 32 bits no guard of `encoded_size` takes effect. -/
theorem encodedSize_eq {players events actions : Nat} (hp : players < 2 ^ 32) (he : events < 2 ^ 32)
    (ha : actions < 2 ^ 32) :
    encodedSize players events actions = 140 + 96 * players + 28 * events + 16 * actions := by
  unfold encodedSize HEADER_SIZE PLAYER_SIZE EVENT_SIZE ACTION_SIZE SIZE_MAX
  dsimp only
  rw [if_neg (by omega), if_neg (by omega), if_neg (by omega)]
  omega

/-! ## Opening an image -/

theorem Gets.run {α : Type} {m : StreamM α} {ws : List UInt32} {a : α} {bad : Bool}
    (h : Gets m ws a bad) (post : Bytes) {size : Nat} (hsize : 4 * ws.length ≤ size) :
    m.run ⟨packed ws ++ post, 0, size, false, true⟩ =
      .ok (a, ⟨packed ws ++ post, 4 * ws.length, size, bad, true⟩) := by
  have := h [] post size false (by rw [List.length_nil]; omega)
  simpa [StateT.run] using this

theorem gets_loadHeader (count events actions : UInt32) :
    Gets loadHeader (headerWords count events actions) (some (count, events, actions)) false := by
  unfold loadHeader headerWords
  refine Gets.word (w := COOP_STATE_MAGIC) ?_
  rw [if_neg (fun h => h rfl)]
  refine Gets.word (w := COOP_STATE_VERSION) ?_
  rw [if_neg (fun h => h rfl)]
  exact Gets.word <| Gets.word <| Gets.word <| Gets.pure _

theorem gets_loadHeader_magic {m : UInt32} (h : m ≠ COOP_STATE_MAGIC) :
    Gets loadHeader [m] none false := by
  unfold loadHeader
  refine Gets.word (w := m) ?_
  rw [if_pos h]
  exact Gets.pure _

theorem gets_loadHeader_version {v : UInt32} (h : v ≠ COOP_STATE_VERSION) :
    Gets loadHeader [COOP_STATE_MAGIC, v] none false := by
  unfold loadHeader
  refine Gets.word (w := COOP_STATE_MAGIC) ?_
  rw [if_neg (fun h => h rfl)]
  refine Gets.word (w := v) ?_
  rw [if_pos h]
  exact Gets.pure _

/-- The word in front of the end, read through the copy `tail` of the stream. -/
theorem word_tail (body : Bytes) (sum : UInt32) :
    (word 0).run ⟨body ++ le32 sum, body.length, body.length + 4, false, true⟩ =
      .ok (sum, ⟨body ++ le32 sum, body.length + 4, body.length + 4, false, true⟩) := by
  have := gets_word 0 sum body [] (body.length + 4) false (by simp)
  simpa [StateT.run] using this

/-- The length `encoded_size` asks for, in words behind the header. -/
def wordCount (count events actions : UInt32) : Nat :=
  29 + 24 * count.toNat + 7 * events.toNat + 4 * actions.toNat

theorem encodedSize_words (count events actions : UInt32) :
    encodedSize count.toNat events.toNat actions.toNat =
      4 * (5 + wordCount count events actions) + 4 := by
  rw [encodedSize_eq count.toNat_lt events.toNat_lt actions.toNat_lt]
  unfold wordCount
  omega

/-- With the announced number of words, only the last word decides. -/
theorem openSession_words {count events actions : UInt32} {ws : List UInt32} (sum : UInt32)
    (hws : ws.length = wordCount count events actions) (hsize : 77 ≤ ws.length) :
    openSession (packed (headerWords count events actions ++ ws) ++ le32 sum) =
      refuseIf (sum ≠ checksum (packed (headerWords count events actions ++ ws))) >>= fun _ =>
        .ok ((count, events, actions),
          ⟨packed (headerWords count events actions ++ ws) ++ le32 sum, 20,
            4 * (5 + ws.length) + 4, false, true⟩) := by
  have hbody : (packed (headerWords count events actions ++ ws)).length = 4 * (5 + ws.length) := by
    rw [packed_length, List.length_append]; rfl
  have hlen : (packed (headerWords count events actions ++ ws) ++ le32 sum).length =
      4 * (5 + ws.length) + 4 := by rw [List.length_append, hbody, le32_length]
  have hheader := (gets_loadHeader count events actions).run (packed ws ++ le32 sum)
    (show 4 * 5 ≤ 4 * (5 + ws.length) + 4 by omega)
  rw [← List.append_assoc, ← packed_append] at hheader
  have htail := word_tail (packed (headerWords count events actions ++ ws)) sum
  rw [hbody] at htail
  have htake : (packed (headerWords count events actions ++ ws) ++ le32 sum).take
      (4 * (5 + ws.length)) = packed (headerWords count events actions ++ ws) := by
    rw [← hbody, List.take_left]
  unfold openSession
  simp only [hlen, Nat.add_sub_cancel, htake, encodedSize_words]
  rw [refuseIf_neg (by simp only [HEADER_SIZE, PLAYER_SIZE]; omega), ok_bind, hheader, ok_bind]
  dsimp only
  rw [refuseIf_neg (by omega), ok_bind, htail, ok_bind]
  rfl

/-- Opening refuses the data, or the data are a sealed image with the announced number of words. -/
theorem openSession_cases (data : Bytes) : openSession data = .error .refused ∨
    ∃ count events actions ws, ws.length = wordCount count events actions ∧ 77 ≤ ws.length ∧
      data = sealBytes (packed (headerWords count events actions ++ ws)) := by
  by_cases hsmall : data.length < HEADER_SIZE + PLAYER_SIZE * 2 + 4
  · left
    unfold openSession
    dsimp only
    rw [refuseIf_pos hsmall, error_bind]
  have hlarge : 332 ≤ data.length := by simpa [HEADER_SIZE, PLAYER_SIZE] using hsmall
  obtain ⟨hs, hlen, hhead⟩ := exists_packed 5 (data.take 20) (by rw [List.length_take]; omega)
  have hdata := List.take_append_drop 20 data
  rw [← hhead] at hdata
  match hs, hlen with
  | [m, v, count, events, actions], _ =>
  have hrun : ∀ {ws : List UInt32} (r : Option (UInt32 × UInt32 × UInt32)),
      Gets loadHeader ws r false → ∀ post : Bytes, packed ws ++ post = data →
      4 * ws.length ≤ data.length →
      loadHeader.run ⟨data, 0, data.length, false, true⟩ =
        .ok (r, ⟨data, 4 * ws.length, data.length, false, true⟩) := by
    intro ws r hgets post heq hle
    have h := hgets.run post hle
    rwa [heq] at h
  by_cases hm : m = COOP_STATE_MAGIC
  swap
  · left
    unfold openSession
    dsimp only
    rw [refuseIf_neg hsmall, ok_bind, hrun _ (gets_loadHeader_magic hm)
      (packed [v, count, events, actions] ++ data.drop 20) (by simpa using hdata) (by simp; omega)]
    rfl
  by_cases hv : v = COOP_STATE_VERSION
  swap
  · left
    unfold openSession
    dsimp only
    subst hm
    rw [refuseIf_neg hsmall, ok_bind, hrun _ (gets_loadHeader_version hv)
      (packed [count, events, actions] ++ data.drop 20) (by simpa using hdata) (by simp; omega)]
    rfl
  subst hm hv
  have hheader := hrun _ (gets_loadHeader count events actions) _ hdata
    (by show 4 * 5 ≤ _; omega)
  by_cases hsize : encodedSize count.toNat events.toNat actions.toNat = data.length
  swap
  · left
    unfold openSession
    dsimp only
    rw [refuseIf_neg hsmall, ok_bind, hheader, ok_bind]
    dsimp only
    rw [refuseIf_pos hsize, error_bind]
  rw [encodedSize_words] at hsize
  have hrest : (data.drop 20).length = 4 * wordCount count events actions + 4 := by
    rw [List.length_drop]; omega
  obtain ⟨ws, hws, hbody⟩ := exists_packed (wordCount count events actions)
    ((data.drop 20).take (4 * wordCount count events actions)) (by rw [List.length_take]; omega)
  obtain ⟨sums, hone, hsum⟩ := exists_packed 1
    ((data.drop 20).drop (4 * wordCount count events actions)) (by rw [List.length_drop]; omega)
  match sums, hone with
  | [sum], _ =>
  have hsealed : data = packed (headerWords count events actions ++ ws) ++ le32 sum := by
    have htail := List.take_append_drop (4 * wordCount count events actions) (data.drop 20)
    rw [← hbody, ← hsum] at htail
    rw [← hdata, ← htail, packed_append, List.append_assoc]
    simp [headerWords]
  by_cases hcheck : sum = checksum (packed (headerWords count events actions ++ ws))
  · exact Or.inr ⟨count, events, actions, ws, hws, by omega, by rw [hsealed, hcheck, sealBytes]⟩
  · left
    rw [hsealed, openSession_words sum hws (by omega), refuseIf_pos hcheck, error_bind]

/-! ## Loading -/

/-- The contents of `s` as a load leaves them: the arrays hold their records and no more, and
`allocator` are the answers left. -/
def CoopSession.reloaded (s : CoopSession) (allocator : Allocator) : CoopSession :=
  { s with eventCapacity := s.events.length, actionCapacity := s.actions.length,
           allocator := allocator }

theorem loadCandidate_some {allocator : Allocator} {count events actions : UInt32}
    {x : CoopSession} (h : loadCandidate allocator count events actions = some x) :
    x.players.length = count.toNat ∧ x.events.length = events.toNat ∧
      x.actions.length = actions.toNat ∧ 2 ≤ count.toNat ∧ count.toNat < COOP_NO_PLAYER.toNat ∧
      x.eventCapacity = events.toNat ∧ x.actionCapacity = actions.toNat := by
  unfold loadCandidate coopSessionInit at h
  split at h
  · cases h
  rename_i hrange
  split at h
  · cases h
  simp only [Option.bind_eq_bind, Option.bind_some] at h
  split at h
  · cases h
  · cases h
    refine ⟨?_, List.length_replicate, List.length_replicate, by omega, by omega, rfl, rfl⟩
    rw [List.length_map, List.length_range]

theorem allocateIf_granted {allocator : Allocator} (h : allocator.Granted) (needed : Bool) :
    ∃ rest, allocateIf needed allocator = (true, rest) ∧ Allocator.Granted rest := by
  cases needed with
  | false => exact ⟨allocator, rfl, h⟩
  | true => exact h.request

theorem allocateIf_nil (needed : Bool) : allocateIf needed [] = (true, []) := by
  cases needed <;> rfl

/-- With every request granted a candidate of any admissible size is built. -/
theorem loadCandidate_granted {allocator : Allocator} (hgrant : allocator.Granted)
    (count events actions : UInt32) (hlo : 2 ≤ count.toNat)
    (hhi : count.toNat < COOP_NO_PLAYER.toNat) :
    ∃ x, loadCandidate allocator count events actions = some x ∧ x.allocator.Granted := by
  obtain ⟨rest, hreq, hrest⟩ := hgrant.request
  obtain ⟨rest', hevents, hrest'⟩ := allocateIf_granted hrest (decide (events ≠ 0))
  obtain ⟨rest'', hactions, hrest''⟩ := allocateIf_granted hrest' (decide (actions ≠ 0))
  have hrange : ¬ (count.toNat < 2 ∨ count.toNat ≥ COOP_NO_PLAYER.toNat ∨
      count.toNat > SIZE_MAX / sizeofCoopPlayer ∨ (60 : UInt32) = 0 ∨ (60 : UInt32) > 1000) := by
    have := count.toNat_lt
    simp only [SIZE_MAX, sizeofCoopPlayer, not_or]
    exact ⟨by omega, by omega, by omega, by decide, by decide⟩
  unfold loadCandidate coopSessionInit
  rw [if_neg hrange, hreq]
  simp only [Option.bind_eq_bind, Option.bind_some, hevents, hactions]
  exact ⟨_, rfl, hrest''⟩

/-- A load of sealed words, by what the candidate's stream gives. -/
theorem readSession_sealed {allocator : Allocator} {count events actions : UInt32}
    {ws : List UInt32} {x s : CoopSession} {bad : Bool}
    (hx : loadCandidate allocator count events actions = some x)
    (hws : ws.length = wordCount count events actions) (hsize : 77 ≤ ws.length)
    (hs : Gets (streamSession x) ws s bad) :
    readSession (sealBytes (packed (headerWords count events actions ++ ws))) allocator =
      refuseIf (bad = true ∨ valid s = false) >>= fun _ => .ok s := by
  have hstream := hs (packed (headerWords count events actions))
    (le32 (checksum (packed (headerWords count events actions ++ ws))))
    (4 * (5 + ws.length)) false (by rw [packed_length]; show 4 * 5 + _ ≤ _; omega)
  have hpos : (packed (headerWords count events actions)).length = 20 := rfl
  rw [← List.append_assoc, ← packed_append, hpos] at hstream
  unfold readSession
  rw [sealBytes, openSession_words _ hws hsize, refuseIf_neg (fun h => h rfl)]
  simp only [ok_bind, hx, Nat.add_sub_cancel, StateT.run]
  rw [hstream, ok_bind]
  have hend : 20 + 4 * ws.length = 4 * (5 + ws.length) := by omega
  simp only [hend, ne_eq, not_true_eq_false, false_or, Bool.false_or]
  rfl

/-- The counts a snapshot can hold. -/
structure Storable (s : CoopSession) : Prop where
  two : 2 ≤ s.players.length
  players : s.players.length < COOP_NO_PLAYER.toNat
  events : s.events.length < 2 ^ 32
  actions : s.actions.length < 2 ^ 32

theorem Storable.wordCount {s : CoopSession} (h : Storable s) : (sessionWords s).length =
    wordCount (UInt32.ofNat s.players.length) (UInt32.ofNat s.events.length)
      (UInt32.ofNat s.actions.length) := by
  have hp := h.players
  have : COOP_NO_PLAYER.toNat = 4294967295 := rfl
  rw [sessionWords_length, Coop.wordCount, UInt32.toNat_ofNat_of_lt' (Nat.lt_trans hp (by decide)),
    UInt32.toNat_ofNat_of_lt' h.events, UInt32.toNat_ofNat_of_lt' h.actions]

/-- Loading the image of a session gives its contents back. -/
theorem readSession_image {s : CoopSession} (hvalid : valid s = true) (hs : Storable s)
    {allocator : Allocator} (hgrant : allocator.Granted) :
    ∃ rest, Allocator.Granted rest ∧
      readSession (sessionImage s) allocator = .ok (s.reloaded rest) := by
  have hp := hs.players
  have hmax : COOP_NO_PLAYER.toNat = 4294967295 := rfl
  have hcount : (UInt32.ofNat s.players.length).toNat = s.players.length :=
    UInt32.toNat_ofNat_of_lt' (Nat.lt_trans hp (by decide))
  obtain ⟨x, hx, hrest⟩ := loadCandidate_granted hgrant (UInt32.ofNat s.players.length)
    (UInt32.ofNat s.events.length) (UInt32.ofNat s.actions.length)
    (by rw [hcount]; exact hs.two) (by rw [hcount]; exact hp)
  obtain ⟨hxp, hxe, hxa, -, -, hcap, hacap⟩ := loadCandidate_some hx
  rw [hcount] at hxp
  rw [UInt32.toNat_ofNat_of_lt' hs.events] at hxe hcap
  rw [UInt32.toNat_ofNat_of_lt' hs.actions] at hxa hacap
  have htwo := hs.two
  have hreloaded : s.reloaded x.allocator = s.storedIn x := by
    rw [CoopSession.reloaded, ← hcap, ← hacap]
    rfl
  refine ⟨x.allocator, hrest, ?_⟩
  rw [hreloaded]
  rw [sessionImage, sessionHeader,
    readSession_sealed hx hs.wordCount (by rw [sessionWords_length]; omega)
    (gets_streamSession x s hxp hxe hxa), refuseIf_neg, ok_bind]
  rintro (h | h)
  · cases h
  · rw [show valid (s.storedIn x) = valid s from rfl, hvalid] at h; cases h

/-- Whatever the bytes, a load refuses them, or they are the image of the session it delivers. -/
theorem readSession_cases (data : Bytes) (allocator : Allocator) :
    readSession data allocator = .error .refused ∨ ∃ s, readSession data allocator = .ok s ∧
      data = sessionImage s ∧ valid s = true ∧ Storable s ∧ s = s.reloaded s.allocator := by
  rcases openSession_cases data with hrefused | ⟨count, events, actions, ws, hws, hsize, rfl⟩
  · left
    rw [readSession, hrefused, error_bind]
  cases hx : loadCandidate allocator count events actions with
  | none =>
      left
      rw [readSession, sealBytes, openSession_words _ hws hsize, refuseIf_neg (fun h => h rfl)]
      simp only [ok_bind, hx]
  | some x =>
      obtain ⟨hxp, hxe, hxa, htwo, hmax, hcap, hacap⟩ := loadCandidate_some hx
      obtain ⟨t, bad, hget, hgood⟩ := streamSession_total x ws
        (by rw [hws, hxp, hxe, hxa]; rfl)
      rw [readSession_sealed hx hws hsize hget]
      by_cases hbad : bad = true ∨ valid t = false
      · left
        rw [refuseIf_pos hbad, error_bind]
      rw [refuseIf_neg hbad]
      rw [not_or, Bool.not_eq_true, Bool.not_eq_false] at hbad
      obtain ⟨hwords, hp, he, ha, hstored⟩ := hgood hbad.1
      rw [hxp] at hp
      rw [hxe] at he
      rw [hxa] at ha
      refine Or.inr ⟨t, rfl, ?_, hbad.2, ⟨by omega, by omega, ?_, ?_⟩, ?_⟩
      · rw [sessionImage, sessionHeader, hwords, hp, he, ha, UInt32.ofNat_toNat, UInt32.ofNat_toNat,
          UInt32.ofNat_toNat]
      · rw [he]; exact events.toNat_lt
      · rw [ha]; exact actions.toNat_lt
      · rw [← hstored, CoopSession.reloaded]
        simp only [CoopSession.storedIn, hcap, hacap, he, ha]

/-- **Canonicity**: a load accepts nothing but images, each of the session it delivers. -/
theorem readSession_accepted {data : Bytes} {allocator : Allocator} {s : CoopSession}
    (h : readSession data allocator = .ok s) :
    data = sessionImage s ∧ valid s = true ∧ Storable s ∧ s = s.reloaded s.allocator := by
  rcases readSession_cases data allocator with hrefused | ⟨t, ht, hrest⟩
  · rw [hrefused] at h; cases h
  · rw [ht] at h
    cases h
    exact hrest

/-! ## Saving -/

theorem Storable.saveSize {s : CoopSession} (h : Storable s) :
    coopSessionSaveSize s = (sessionImage s).length := by
  have hp := h.players
  have htwo := h.two
  have he := h.events
  have ha := h.actions
  have hmax : COOP_NO_PLAYER.toNat = 4294967295 := rfl
  unfold coopSessionSaveSize UINT32_MAX
  rw [if_neg, encodedSize_eq (by omega) he ha, sessionImage_length]
  rintro (h | h | h | h)
  · rw [h] at htwo; simp at htwo
  · omega
  · omega
  · omega

theorem Storable.of_saveSize {s : CoopSession} (htwo : 2 ≤ s.players.length)
    (h : coopSessionSaveSize s ≠ 0) : Storable s := by
  unfold coopSessionSaveSize at h
  split at h
  · exact absurd rfl h
  · rename_i hcounts
    unfold UINT32_MAX at hcounts
    exact ⟨htwo, by omega, by omega, by omega⟩

theorem puts_saveHeader (s : CoopSession) : Puts (saveHeader s) (sessionHeader s) () :=
  Puts.word <| Puts.word <| Puts.word <| Puts.word <| Puts.word <| Puts.pure ()

/-- Saving a valid session into a buffer that is large enough writes its image. -/
theorem coopSessionSave_image {s : CoopSession} (hvalid : valid s = true) (hs : Storable s)
    {allocator : Allocator} (hgrant : allocator.Granted) {data : Bytes}
    (hdata : coopSessionSaveSize s ≤ data.length) :
    coopSessionSave s allocator data =
      .ok (sessionImage s ++ data.drop (sessionImage s).length) := by
  have hsize := hs.saveSize
  have hwords := sessionWords_length s
  have hlen := sessionImage_length s
  -- the buffer, cut where the header, the words and the checksum go
  obtain ⟨old₁, old₂, old₃, post, rfl, h₁, h₂, h₃⟩ : ∃ old₁ old₂ old₃ post,
      data = old₁ ++ (old₂ ++ (old₃ ++ post)) ∧ old₁.length = 4 * 5 ∧
      old₂.length = 4 * (sessionWords s).length ∧ old₃.length = 4 := by
    refine ⟨data.take 20, (data.drop 20).take (4 * (sessionWords s).length),
      ((data.drop 20).drop (4 * (sessionWords s).length)).take 4,
      ((data.drop 20).drop (4 * (sessionWords s).length)).drop 4, ?_, ?_, ?_, ?_⟩
    · rw [List.take_append_drop, List.take_append_drop, List.take_append_drop]
    all_goals simp only [List.length_take, List.length_drop]; omega
  obtain ⟨rest₁, hreq₁, hg₁⟩ := hgrant.request
  obtain ⟨rest₂, hreq₂, hg₂⟩ := allocateIf_granted hg₁ (decide (s.events ≠ []))
  obtain ⟨rest₃, hreq₃, -⟩ := allocateIf_granted hg₂ (decide (s.actions ≠ []))
  have hheader : saveHeader s ⟨old₁ ++ (old₂ ++ (old₃ ++ post)), 0, coopSessionSaveSize s - 4,
      false, false⟩ = .ok ((), ⟨packed (sessionHeader s) ++ (old₂ ++ (old₃ ++ post)),
        (packed (sessionHeader s)).length, coopSessionSaveSize s - 4, false, false⟩) :=
    puts_saveHeader s [] old₁ (old₂ ++ (old₃ ++ post)) (coopSessionSaveSize s - 4) h₁
      (by show 0 + 4 * 5 ≤ _; omega)
  have hstream := puts_streamSession s (packed (sessionHeader s)) old₂ (old₃ ++ post)
    (coopSessionSaveSize s - 4) h₂ (by rw [packed_length]; show 4 * 5 + _ ≤ _; omega)
  have hbody : (packed (sessionHeader s ++ sessionWords s)).length =
      coopSessionSaveSize s - 4 := by
    rw [packed_length, List.length_append]
    show 4 * (5 + _) = _
    omega
  have hsum := puts_word (checksum (packed (sessionHeader s ++ sessionWords s)))
    (packed (sessionHeader s ++ sessionWords s)) old₃ post (coopSessionSaveSize s)
    h₃ (by rw [hbody]; show _ + 4 * 1 ≤ _; omega)
  rw [hbody] at hsum
  have hwhole : packed (sessionHeader s) ++ (packed (sessionWords s) ++ (old₃ ++ post)) =
      packed (sessionHeader s ++ sessionWords s) ++ (old₃ ++ post) := by
    rw [packed_append, List.append_assoc]
  have hend : (packed (sessionHeader s)).length + 4 * (sessionWords s).length =
      coopSessionSaveSize s - 4 := by
    rw [← hbody, packed_append, List.length_append, packed_length (sessionWords s)]
  have htake : (packed (sessionHeader s ++ sessionWords s) ++ (old₃ ++ post)).take
      (coopSessionSaveSize s - 4) = packed (sessionHeader s ++ sessionWords s) := by
    rw [← hbody, List.take_left]
  have hdrop : (old₁ ++ (old₂ ++ (old₃ ++ post))).drop (sessionImage s).length = post := by
    rw [← List.append_assoc, ← List.append_assoc, List.drop_append_of_le_length (by simp; omega),
      List.drop_of_length_le (by simp; omega), List.nil_append]
  have hroom : coopSessionSaveSize s ≠ 0 := by omega
  unfold coopSessionSave
  dsimp only
  rw [refuseIf_neg (by simp [hvalid, hroom]; simpa using hdata), ok_bind]
  simp only [StateT.run, hreq₁, hreq₂, hreq₃]
  rw [hheader, ok_bind, refuseIf_neg (by decide), ok_bind, hstream, ok_bind]
  dsimp only
  rw [hend, refuseIf_neg (by simp), ok_bind, hwhole, htake, hsum, ok_bind,
    refuseIf_neg Bool.false_ne_true, ok_bind, hdrop]
  simp [sessionImage, sealBytes, Pure.pure, Except.pure]

/-! ## The codec -/

/-- Equality in every persisted field: only the arrays' storage may differ. -/
def SamePersisted (s t : CoopSession) : Prop := t = s.storedIn t

theorem deliver_ok {σ : Type} {destination : σ} {r : Except Stop σ} {t : σ}
    (h : deliver destination r = .ok (true, t)) : r = .ok t := by
  match r, h with
  | .ok c, h => cases h; rfl

/-- **The session codec is a bijection on its image.**  Every valid session of at least two and
fewer than `2 ^ 32 - 1` players is saved, and loads as an equal session; every byte string a load
accepts is what a save of the loaded session writes. -/
theorem session_codec :
    (∀ (s : CoopSession) (allocator allocator' : Allocator) (data : Bytes), valid s = true →
      2 ≤ s.players.length → s.players.length < COOP_NO_PLAYER.toNat → s.events.length < 2 ^ 32 →
      s.actions.length < 2 ^ 32 → allocator.Granted → allocator'.Granted →
      coopSessionSaveSize s ≤ data.length →
      ∃ bytes, bytes.length = coopSessionSaveSize s ∧
        coopSessionSave s allocator data = .ok (bytes ++ data.drop bytes.length) ∧
        ∀ destination, ∃ t, coopSessionLoad destination bytes allocator' = .ok (true, t) ∧
          SamePersisted s t) ∧
    (∀ (bytes : Bytes) (destination t : CoopSession) (allocator : Allocator),
      coopSessionLoad destination bytes allocator = .ok (true, t) →
      coopSessionSaveSize t = bytes.length ∧
      ∀ (allocator' : Allocator) (data : Bytes), allocator'.Granted → bytes.length ≤ data.length →
        coopSessionSave t allocator' data = .ok (bytes ++ data.drop bytes.length)) := by
  refine ⟨?_, ?_⟩
  · intro s allocator allocator' data hvalid htwo hplayers hevents hactions hg hg' hdata
    have hs : Storable s := ⟨htwo, hplayers, hevents, hactions⟩
    obtain ⟨rest, -, hload⟩ := readSession_image hvalid hs hg'
    refine ⟨sessionImage s, hs.saveSize.symm, coopSessionSave_image hvalid hs hg hdata,
      fun destination => ⟨s.reloaded rest, ?_, rfl⟩⟩
    rw [coopSessionLoad, hload]
    rfl
  · intro bytes destination t allocator hload
    obtain ⟨rfl, hvalid, hs, -⟩ := readSession_accepted (deliver_ok hload)
    exact ⟨hs.saveSize, fun allocator' data hg hdata =>
      coopSessionSave_image hvalid hs hg (by rw [hs.saveSize]; exact hdata)⟩

/-- Two players at the start of their first frame. -/
def pairSession : CoopSession := (coopSessionInit [] 2 60).get (by decide)

theorem pairSession_init : coopSessionInit [] 2 60 = some pairSession := (Option.some_get _).symm

/-- Three players in the middle of a frame: one rides and flies, one holds a shell, one is a bubble;
an event and two actions are pending. -/
def midgameSession : CoopSession :=
  { pairSession with
    players :=
      [{ initPlayer 0 with
          power := .is .cape, reserve := 2, x := -24, y := 352, height := 32, starTicks :=
            90, mount := 5
          heldInput := 0x8080, pressedInput := 0x80, actionLatch := 0x40, supportedFlight := true },
        { initPlayer 1 with
          power := .is .fire, reserve := 4, x := 1000, y := -40, halfWidth :=
            6, protectionTicks := 20
          separationTicks := 59, heldObject := 4, grounded := true, behindFence := true },
        { initPlayer 2 with
          life := .is .deathBubble, x := 990, y := 200, recoveryTicks := 45, connected := false
          swimming := true, checkpointUpgrade := true }]
    primary := 1
    camera :=
      { x := -16, y := 96, width := 256, height := 224, roomWidth := 4096, roomHeight := 432
        previousCenterX := -1, previousCenterY := 200, travelX := -1, travelY := 1, leader := 1
        initialized := true, autoscroll := true }
    frame := 0x123456789
    ticksPerSecond := 50
    lives := 7
    coins := 42
    score := 123450
    dragonCoins := 3
    bonusStars := 9
    checkpoint := 1
    levelTicks := 300
    outcome := .is .retry
    advancing := true
    inputBlocked := true
    resolved := true
    events := [⟨.is .enemyContact, 1, 9, 3, COOP_EVENT_STOMP, 0x100000001⟩]
    actions := [⟨.is .damage, 0, 9, 1⟩, ⟨.is .recover, COOP_NO_PLAYER, COOP_NO_ENTITY, 0⟩] }

theorem midgameSession_valid : valid midgameSession = true := by decide +kernel

theorem session_codec_midgame : ∃ bytes t, bytes.length = 488 ∧
    coopSessionLoad pairSession bytes [] = .ok (true, t) ∧ SamePersisted midgameSession t ∧
    coopSessionSave t [] bytes = .ok (bytes ++ []) := by
  have hg := Allocator.granted_nil
  obtain ⟨bytes, hlen, -, hload⟩ := session_codec.1 midgameSession [] [] (List.replicate 488 0)
    midgameSession_valid (by decide) (by decide) (by decide) (by decide) hg hg
    (by rw [List.length_replicate]; decide)
  obtain ⟨t, ht, hsame⟩ := hload pairSession
  have hsave := (session_codec.2 bytes pairSession t [] ht).2 [] bytes hg (Nat.le_refl _)
  rw [List.drop_length] at hsave
  exact ⟨bytes, t, hlen.trans (by decide), ht, hsame, hsave⟩

/-- The pair's session with `n` fresh players. -/
def rosterSession (n : Nat) : CoopSession :=
  { pairSession with players := (List.range n).map initPlayer }

theorem rosterSession_valid {n : Nat} (hpos : 0 < n) (hn : n ≤ COOP_NO_PLAYER.toNat) :
    Valid (rosterSession n) := by
  obtain ⟨hids, hnd, hbodies, happ⟩ := freshPlayers_valid hn
  have h := coopSessionInit_valid pairSession_init
  exact ⟨h.ticks, h.outcome, ⟨initPlayer 0, List.mem_map_of_mem (List.mem_range.2 hpos), rfl⟩,
    fun h => absurd rfl h, h.camera, hids, hnd, hbodies, happ, fun _ h => (nomatch h),
    fun _ h => (nomatch h)⟩

theorem rosterSession_length (n : Nat) : (rosterSession n).players.length = n := by
  show ((List.range n).map initPlayer).length = n
  rw [List.length_map, List.length_range]

theorem coopSessionSave_refused {s : CoopSession} (h : coopSessionSaveSize s = 0)
    (allocator : Allocator) (data : Bytes) :
    coopSessionSave s allocator data = .error .refused := by
  unfold coopSessionSave
  dsimp only
  rw [refuseIf_pos (Or.inl h), error_bind]

/-- What a save writes does not depend on the answers it gets. -/
theorem coopSessionSave_granted {s : CoopSession} {allocator : Allocator} {data bytes : Bytes}
    (h : coopSessionSave s allocator data = .ok bytes) : coopSessionSave s [] data = .ok bytes := by
  unfold coopSessionSave at h ⊢
  dsimp only at h ⊢
  cases hr : refuseIf (coopSessionSaveSize s = 0 ∨ data.length < coopSessionSaveSize s ∨
      valid s = false) with
  | error stop => rw [hr, error_bind] at h; cases h
  | ok u =>
      rw [hr, ok_bind] at h
      rw [ok_bind]
      cases hw : (saveHeader s).run ⟨data, 0, coopSessionSaveSize s - 4, false, false⟩ with
      | error stop => rw [hw, error_bind] at h; cases h
      | ok w =>
          rw [hw, ok_bind] at h
          rw [ok_bind]
          by_cases hgrant : (!allocator.request.1 ||
              !(allocateIf (decide (s.events ≠ [])) allocator.request.2).1 ||
              !(allocateIf (decide (s.actions ≠ []))
                (allocateIf (decide (s.events ≠ [])) allocator.request.2).2).1) = true
          · rw [refuseIf_pos hgrant, error_bind] at h; cases h
          · rw [refuseIf_neg hgrant, ok_bind] at h
            simp only [Allocator.request, allocateIf_nil]
            rw [refuseIf_neg (by decide), ok_bind]
            exact h

/-- Without its first allocation a save writes nothing. -/
theorem coopSessionSave_starved (s : CoopSession) (data bytes : Bytes) :
    coopSessionSave s [false] data ≠ .ok bytes := by
  intro h
  unfold coopSessionSave at h
  dsimp only at h
  cases hr : refuseIf (coopSessionSaveSize s = 0 ∨ data.length < coopSessionSaveSize s ∨
      valid s = false) with
  | error stop => rw [hr, error_bind] at h; cases h
  | ok u =>
      rw [hr, ok_bind] at h
      cases hw : (saveHeader s).run ⟨data, 0, coopSessionSaveSize s - 4, false, false⟩ with
      | error stop => rw [hw, error_bind] at h; cases h
      | ok w =>
          rw [hw, ok_bind] at h
          simp [Allocator.request, refuseIf] at h

/-- Without its first allocation a load refuses everything. -/
theorem coopSessionLoad_starved (s : CoopSession) (data : Bytes) :
    coopSessionLoad s data [false] = .ok (false, s) := by
  rcases openSession_cases data with hrefused | ⟨count, events, actions, ws, hws, hsize, rfl⟩
  · rw [coopSessionLoad, readSession, hrefused]; rfl
  · have hnone : loadCandidate [false] count events actions = none := by
      unfold loadCandidate coopSessionInit
      split <;> rfl
    rw [coopSessionLoad, readSession, sealBytes, openSession_words _ hws hsize,
      refuseIf_neg (fun h => h rfl)]
    simp only [ok_bind, hnone]
    rfl

/-- A valid session of `2 ^ 32 - 1` players is never saved, and a load that cannot allocate its
players refuses the bytes a save wrote. -/
theorem codec_refuses_full_roster_or_allocation :
    (∃ s : CoopSession, valid s = true ∧ 2 ≤ s.players.length ∧ s.events = [] ∧ s.actions = [] ∧
      ∀ allocator data, coopSessionSave s allocator data = .error .refused) ∧
    (∃ s data bytes, valid s = true ∧ 2 ≤ s.players.length ∧ s.events = [] ∧ s.actions = [] ∧
      coopSessionSave s [] data = .ok bytes ∧
      coopSessionLoad s bytes [false] = .ok (false, s)) := by
  have hmax : COOP_NO_PLAYER.toNat = 4294967295 := rfl
  refine ⟨⟨rosterSession COOP_NO_PLAYER.toNat, ?_, ?_, rfl, rfl, ?_⟩, ?_⟩
  · exact valid_iff.2 (rosterSession_valid (by omega) (Nat.le_refl _))
  · rw [rosterSession_length, hmax]; omega
  · refine coopSessionSave_refused ?_
    unfold coopSessionSaveSize
    rw [if_pos (Or.inr (Or.inl (by rw [rosterSession_length])))]
  · have hvalid := valid_iff.2 (coopSessionInit_valid pairSession_init)
    exact ⟨pairSession, List.replicate 332 0, _, hvalid, by decide, rfl, rfl,
      coopSessionSave_image hvalid ⟨by decide, by decide, by decide, by decide⟩
        Allocator.granted_nil (by rw [List.length_replicate]; decide),
      coopSessionLoad_starved _ _⟩

end SmwRecomp.Coop
