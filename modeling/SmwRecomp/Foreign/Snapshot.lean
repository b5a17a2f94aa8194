import SmwRecomp.Foreign.Controller
import Mathlib.Data.List.Nodup

/-!
# Foreign snapshots are exact and atomic

* `Registry` — the registered identities are named, distinct and few, and the active controller is
  one of them; every run keeps it.
* `snapshotImage` — the bytes `snes_foreign_save` writes; `save_cases` — what it answers.
* `load_image` — what `snes_foreign_load` makes of such bytes.
* `foreign_snapshot` — the round trip, and what a refused load leaves alone.
-/

set_option autoImplicit false

namespace SmwRecomp.Foreign

variable {κ π ι ρ ε : Type}

/-- Whatever the live part is, the payload of `state` and `own` brings both back. -/
def ForeignController.Inverts (c : ForeignController π ι ρ) : Prop :=
  ∀ serialize deserialize, c.serialize = some serialize → c.deserialize = some deserialize →
    ∀ state own live payload, serialize state own SNES_FOREIGN_SAVE_MAX_PAYLOAD = some payload →
      deserialize state live payload c.saveVersion = (true, state, own)

/-! ## The registry along a run -/

/-- What the registry keeps. -/
structure Registry (table : κ → ForeignController π ι ρ) (s : Core κ π ε) : Prop where
  named : ∀ k ∈ s.controllers, (table k).id ≠ []
  distinct : (s.controllers.map fun k => (table k).id).Nodup
  few : s.controllers.length ≤ FOREIGN_MAX_CONTROLLERS
  active : ∀ k ∈ s.active, k ∈ s.controllers

section Registry

variable {table : κ → ForeignController π ι ρ} {s t : Core κ π ε}

theorem registry_start [Inhabited ε] (memory : κ → π) :
    Registry table (Core.start memory : Core κ π ε) where
  named _ hk := nomatch hk
  distinct := List.nodup_nil
  few := Nat.zero_le _
  active _ hk := nomatch hk

/-- The registry looks at the controllers and at which of them is active. -/
theorem Registry.of_same (h : Registry table s) (hc : t.controllers = s.controllers)
    (ha : ∀ k ∈ t.active, k ∈ s.controllers) : Registry table t where
  named := by rw [hc]; exact h.named
  distinct := by rw [hc]; exact h.distinct
  few := by rw [hc]; exact h.few
  active := by rw [hc]; exact ha

theorem mem_of_findController {controllers : List κ} {id : Bytes} {k : κ}
    (h : findController table controllers id = some k) : k ∈ controllers ∧ (table k).id = id := by
  unfold findController at h
  have hid := List.find?_some h
  exact ⟨List.mem_of_find?_eq_some h, of_decide_eq_true hid⟩

theorem findController_of_mem {controllers : List κ} {k : κ}
    (hdistinct : (controllers.map fun k => (table k).id).Nodup) (hk : k ∈ controllers) :
    findController table controllers (table k).id = some k := by
  cases hfind : findController table controllers (table k).id with
  | none =>
      have hne := List.find?_eq_none.1 hfind k hk
      simp at hne
  | some j =>
      obtain ⟨hj, hid⟩ := mem_of_findController hfind
      rw [List.inj_on_of_nodup_map hdistinct hj hk hid]

theorem Registry.register [DecidableEq κ] (h : Registry table s) (k : κ) :
    Registry table (s.register table k).2 := by
  unfold Core.register
  by_cases hid : (table k).id = []
  · rwa [if_pos hid]
  · rw [if_neg hid]
    cases hfind : s.controllers.find? (fun j => decide ((table j).id = (table k).id)) with
    | some j => exact h
    | none =>
        dsimp only
        by_cases hfull : s.controllers.length ≥ FOREIGN_MAX_CONTROLLERS
        · rwa [if_pos hfull]
        · rw [if_neg hfull]
          have hfresh : ∀ j ∈ s.controllers, (table j).id ≠ (table k).id := by
            intro j hj
            have hne := List.find?_eq_none.1 hfind j hj
            simpa using hne
          constructor
          · intro j hj
            rcases List.mem_append.1 hj with hj | hj
            · exact h.named j hj
            · rwa [List.mem_singleton.1 hj]
          · rw [List.map_append, List.nodup_append]
            refine ⟨h.distinct, List.nodup_singleton _, ?_⟩
            intro a ha b hb
            obtain ⟨j, hj, rfl⟩ := List.mem_map.1 ha
            rw [List.mem_singleton.1 hb]
            exact hfresh j hj
          · have hlen : (s.controllers ++ [k]).length = s.controllers.length + 1 := by simp
            dsimp only
            omega
          · intro j hj
            exact List.mem_append_left _ (h.active j hj)

theorem Registry.select [DecidableEq κ] (h : Registry table s) (id : Bytes) :
    Registry table (s.select table id).2 := by
  unfold Core.select
  by_cases hid : id = []
  · rw [if_pos hid]
    exact h.of_same rfl fun k hk => nomatch hk
  · rw [if_neg hid]
    cases hfind : findController table s.controllers id with
    | none => exact h
    | some k =>
        have hactive : ∀ j ∈ some k, j ∈ s.controllers := by
          intro j hj
          cases hj
          exact (mem_of_findController hfind).1
        cases hreset : (table k).reset with
        | none =>
            dsimp only
            rw [hreset]
            exact h.of_same rfl hactive
        | some reset =>
            dsimp only
            rw [hreset]
            exact h.of_same rfl hactive

/-- What neither a tick nor a resolution touches. -/
theorem tick_frame [DecidableEq κ] (s : Core κ π ε) (input : ι) (entry : ε) :
    (s.tick table input entry).controllers = s.controllers ∧ (s.tick table input entry).active =
      s.active := by
  unfold Core.tick
  split
  · exact ⟨rfl, rfl⟩
  · split
    · exact ⟨rfl, rfl⟩
    · exact ⟨rfl, rfl⟩

theorem resolve_frame [DecidableEq κ] (s : Core κ π ε) (hit : ρ) (note : ε → ε) :
    (s.resolve table hit note).controllers = s.controllers ∧
      (s.resolve table hit note).active = s.active := by
  unfold Core.resolve
  dsimp only
  split
  · exact ⟨rfl, rfl⟩
  · split
    · exact ⟨rfl, rfl⟩
    · split
      · exact ⟨rfl, rfl⟩
      · exact ⟨rfl, rfl⟩

end Registry

/-! ## Saving -/

/-- The fields of the state, in front of `bs`. -/
def stateImage (s : ForeignState) (bs : Bytes) : Bytes :=
  words [s.state.toUInt32, s.stateFrame]
    (le64 s.x ++ (le64 s.y ++ (le64 s.vx ++ (le64 s.vy ++
      words [s.facing, s.grounded.toUInt32, s.fastFall.toUInt32, s.airCause.toWord,
        s.jumpPhase.toWord]
        bs))))

/-- The head of a snapshot, in front of `bs`. -/
def headImage (h : Head) (bs : Bytes) : Bytes :=
  words [FOREIGN_SAVE_MAGIC] (le16 FOREIGN_SAVE_FORMAT_VERSION ++ (le16 h.idLength ++
    words [h.ownership.toWord] (stateImage h.state (words [h.version, h.payloadSize] bs))))

theorem stateImage_append (s : ForeignState) (bs cs : Bytes) :
    stateImage s bs ++ cs = stateImage s (bs ++ cs) := by
  simp [stateImage, words, List.append_assoc]

theorem headImage_append (h : Head) (bs cs : Bytes) :
    headImage h bs ++ cs = headImage h (bs ++ cs) := by
  simp [headImage, words, List.append_assoc, stateImage_append]

theorem stateImage_length (s : ForeignState) (bs : Bytes) :
    (stateImage s bs).length = 60 + bs.length := by
  simp [stateImage]
  omega

theorem headImage_length (h : Head) (bs : Bytes) :
    (headImage h bs).length = FOREIGN_SAVE_FIXED_SIZE + bs.length := by
  simp [headImage, stateImage_length, FOREIGN_SAVE_FIXED_SIZE]
  omega

theorem writes_writeState (s : ForeignState) : Writes (writeState s) (stateImage s []) := by
  unfold writeState stateImage
  apply Writes.word
  apply Writes.word
  apply (writes_putBytes (le64 s.x)).bind
  apply (writes_putBytes (le64 s.y)).bind
  apply (writes_putBytes (le64 s.vx)).bind
  apply (writes_putBytes (le64 s.vy)).bind
  apply Writes.word
  apply Writes.word
  apply Writes.word
  apply Writes.word
  exact writes_lastWord _

/-- The head of a snapshot of `s`. -/
def headOf (s : Core κ π ε) (id : Bytes) (version : UInt32) (payload : Bytes) : Head :=
  ⟨UInt16.ofNat id.length, s.ownership, s.state, version, UInt32.ofNat payload.length⟩

theorem writes_writeSnapshot (s : Core κ π ε) (id : Bytes) (version : UInt32) (payload : Bytes) :
    Writes (writeSnapshot s id version payload)
      (headImage (headOf s id version payload) (id ++ payload)) := by
  have hstate : ∀ bs, stateImage s.state bs = stateImage s.state [] ++ bs := by
    intro bs
    rw [stateImage_append, List.nil_append]
  unfold writeSnapshot headImage headOf
  apply Writes.word
  apply (writes_putBytes (le16 _)).bind
  apply (writes_putBytes (le16 _)).bind
  apply Writes.word
  rw [words, hstate]
  apply (writes_writeState s.state).bind
  apply Writes.word
  apply Writes.word
  exact (writes_putBytes id).bind (writes_putBytes payload)

/-- What a save took: nothing is active, or a controller that saves nothing of its own, or one that
does. -/
inductive Taken (table : κ → ForeignController π ι ρ) (s : Core κ π ε) :
    Bytes → UInt32 → Bytes → Prop
  | native : s.active = none → Taken table s [] 0 []
  | plain {k : κ} : s.active = some k → (table k).id.length ≤ FOREIGN_SAVE_MAX_ID →
      validSaveCallbacks (table k) = true → (table k).serialize = none →
      Taken table s (table k).id 0 []
  | own {k : κ} {payload : Bytes} {serialize : ForeignState → π → Nat → Option Bytes} :
      s.active = some k → (table k).id.length ≤ FOREIGN_SAVE_MAX_ID →
      validSaveCallbacks (table k) = true → (table k).serialize = some serialize →
      serialize s.state (s.memory k) SNES_FOREIGN_SAVE_MAX_PAYLOAD = some payload →
      payload.length ≤ SNES_FOREIGN_SAVE_MAX_PAYLOAD →
      Taken table s (table k).id (table k).saveVersion payload

section Save

variable {table : κ → ForeignController π ι ρ} {s : Core κ π ε} {id payload : Bytes}
  {version : UInt32}

theorem taken_of_payloadOf (h : payloadOf table s = some (id, version, payload)) :
    Taken table s id version payload := by
  unfold payloadOf at h
  cases hactive : s.active with
  | none =>
      rw [hactive] at h
      cases h
      exact .native hactive
  | some k =>
      rw [hactive] at h
      dsimp only at h
      split at h
      · cases h
      · rename_i hbad
        rw [not_or, not_or, Nat.not_lt, Bool.not_eq_false] at hbad
        cases hserialize : (table k).serialize with
        | none =>
            rw [hserialize] at h
            cases h
            exact .plain hactive hbad.2.1 hbad.2.2 hserialize
        | some serialize =>
            rw [hserialize] at h
            dsimp only at h
            split at h
            · cases h
            · rename_i bytes hbytes
              split at h
              · cases h
              · rename_i hsmall
                cases h
                exact .own hactive hbad.2.1 hbad.2.2 hserialize hbytes (Nat.not_lt.1 hsmall)

theorem Taken.small (h : Taken table s id version payload) :
    id.length ≤ FOREIGN_SAVE_MAX_ID ∧ payload.length ≤ SNES_FOREIGN_SAVE_MAX_PAYLOAD := by
  cases h with
  | native _ => exact ⟨Nat.zero_le _, Nat.zero_le _⟩
  | plain _ hid _ _ => exact ⟨hid, Nat.zero_le _⟩
  | own _ hid _ _ _ hsmall => exact ⟨hid, hsmall⟩

/-- A save writes the whole image in front of what its buffer held, or nothing at all. -/
theorem save_cases (table : κ → ForeignController π ι ρ) (s : Core κ π ε) (dst : Bytes) :
    snesForeignSave table s dst = .ok none ∨
      ∃ id version payload, Taken table s id version payload ∧
        ownershipInvalid s.ownership.toWord = false ∧
        ∃ rest, snesForeignSave table s dst = .ok (some
          (headImage (headOf s id version payload) (id ++ payload) ++ rest,
            (headImage (headOf s id version payload) (id ++ payload)).length)) := by
  unfold snesForeignSave
  by_cases hownership : ownershipInvalid s.ownership.toWord = true
  · rw [if_pos hownership]
    exact Or.inl rfl
  · rw [if_neg hownership]
    cases hpayload : payloadOf table s with
    | none => exact Or.inl rfl
    | some taken =>
        obtain ⟨id, version, payload⟩ := taken
        dsimp only
        split
        · exact Or.inl rfl
        · rename_i hfits
          right
          refine ⟨id, version, payload, taken_of_payloadOf hpayload,
            Bool.eq_false_iff.2 hownership, ?_⟩
          have hlen := headImage_length (headOf s id version payload) (id ++ payload)
          rw [List.length_append, ← Nat.add_assoc] at hlen
          have hold : (dst.take (FOREIGN_SAVE_FIXED_SIZE + id.length + payload.length)).length =
              (headImage (headOf s id version payload) (id ++ payload)).length := by
            rw [List.length_take]
            omega
          have hwrite := writes_writeSnapshot s id version payload [] _
            (dst.drop (FOREIGN_SAVE_FIXED_SIZE + id.length + payload.length)) hold
          rw [List.take_append_drop] at hwrite
          refine ⟨dst.drop (FOREIGN_SAVE_FIXED_SIZE + id.length + payload.length), ?_⟩
          rw [hlen]
          show (writeSnapshot s id version payload ⟨dst, 0⟩ >>= _) = _
          have hrun : writeSnapshot s id version payload ⟨dst, 0⟩ = _ := hwrite
          rw [hrun]
          rfl

end Save

/-! ## Loading -/

theorem reads_readState (k : Nat) (s : ForeignState) : Reads k readState (stateImage s []) s := by
  unfold readState stateImage
  apply Reads.word
  apply Reads.word
  apply Reads.long
  apply Reads.long
  apply Reads.long
  apply Reads.long
  apply Reads.word
  apply Reads.word
  apply Reads.word
  apply Reads.word
  apply Reads.word
  rw [CEnum.ofWord_toWord, CEnum.ofWord_toWord]
  exact Reads.pure s

/-- A head that a load lets pass is read back as it was written. -/
theorem reads_readHead {h : Head} (hid : h.idLength.toNat ≤ FOREIGN_SAVE_MAX_ID)
    (hownership : ownershipInvalid h.ownership.toWord = false) :
    Reads 0 readHead (headImage h []) h := by
  have hstate : ∀ bs, stateImage h.state bs = stateImage h.state [] ++ bs := by
    intro bs
    rw [stateImage_append, List.nil_append]
  unfold readHead headImage
  apply Reads.word
  apply Reads.refuse (by simp)
  apply Reads.half
  apply Reads.refuse (by simp)
  apply Reads.half
  apply Reads.refuse (by omega)
  apply Reads.word
  apply Reads.refuse (by simp [hownership])
  rw [words, hstate]
  apply (reads_readState 0 h.state).bind (Nat.zero_le _)
  apply Reads.word
  apply Reads.word
  rw [CEnum.ofWord_toWord]
  exact Reads.pure h

section Load

variable [DecidableEq κ] [Inhabited ε] {table : κ → ForeignController π ι ρ} {s u : Core κ π ε}

/-- A whole image gets as far as the controller's own part. -/
theorem load_image {h : Head} {id payload : Bytes} (hid : h.idLength.toNat = id.length)
    (hpayload : h.payloadSize.toNat = payload.length) (hsmall : id.length ≤ FOREIGN_SAVE_MAX_ID)
    (hroom : payload.length ≤ SNES_FOREIGN_SAVE_MAX_PAYLOAD)
    (hownership : ownershipInvalid h.ownership.toWord = false) :
    snesForeignLoad table u (headImage h (id ++ payload)) =
      .ok (loadPayload table u h id payload) := by
  have hlen := headImage_length h (id ++ payload)
  have hhead : (headImage h []).length = FOREIGN_SAVE_FIXED_SIZE := headImage_length h []
  have hsplit : headImage h (id ++ payload) = headImage h [] ++ (id ++ payload) := by
    rw [headImage_append, List.nil_append]
  have hread := reads_readHead (hid ▸ hsmall) hownership [] (id ++ payload) (Nat.zero_le _)
  rw [List.nil_append, ← hsplit] at hread
  have hrun : readHead.run ⟨headImage h (id ++ payload), 0⟩ =
      .ok (h, ⟨headImage h (id ++ payload), (headImage h []).length⟩) := by
    rw [List.length_nil, Nat.zero_add] at hread
    exact hread
  rw [List.length_append, ← Nat.add_assoc] at hlen
  unfold snesForeignLoad
  rw [if_neg (by omega), hrun]
  dsimp only
  rw [if_neg (by omega), hid, hpayload,
    fetchBytes_at (a := headImage h []) hsplit rfl rfl, ok_bind,
    fetchBytes_at (a := headImage h [] ++ id) (b := []) (by simp [hsplit]) (by simp) rfl, ok_bind]
  rfl

theorem idLength_ne_zero {id : Bytes} (h : id ≠ []) (hsmall : id.length ≤ FOREIGN_SAVE_MAX_ID) :
    UInt16.ofNat id.length ≠ 0 := by
  have hpos := List.length_pos_iff.2 h
  have hmax : FOREIGN_SAVE_MAX_ID = 96 := rfl
  intro hzero
  have hnat := congrArg UInt16.toNat hzero
  rw [UInt16.toNat_ofNat_of_lt' (by simp [UInt16.size]; omega)] at hnat
  simp at hnat
  exact h hnat

omit [DecidableEq κ] [Inhabited ε] in
theorem deserialize_of_valid {c : ForeignController π ι ρ}
    {serialize : ForeignState → π → Nat → Option Bytes}
    (hcallbacks : validSaveCallbacks c = true) (hserialize : c.serialize = some serialize) :
    ∃ deserialize, c.deserialize = some deserialize := by
  unfold validSaveCallbacks at hcallbacks
  rw [hserialize] at hcallbacks
  simp at hcallbacks
  exact Option.isSome_iff_exists.1 hcallbacks

/-- `t` is `u` with the snapshot of `s` loaded into it. -/
structure Restored (table : κ → ForeignController π ι ρ) (s u t : Core κ π ε) : Prop where
  controllers : t.controllers = u.controllers
  active : t.active = s.active
  state : t.state = s.state
  ownership : t.ownership = s.ownership
  trace : t.trace = .cleared
  own : ∀ k ∈ s.active, (table k).serialize.isSome → t.memory k = s.memory k
  others : ∀ k ∉ s.active, t.memory k = u.memory k

/-- The controller a snapshot names is the one it was taken of. -/
theorem loadPayload_taken {id payload : Bytes} {version : UInt32}
    (hinverts : ∀ k, (table k).Inverts) (hs : Registry table s) (hu : Registry table u)
    (hregistered : ∀ k ∈ s.active, k ∈ u.controllers) (h : Taken table s id version payload) :
    ∃ t, loadPayload table u (headOf s id version payload) id payload = (true, t) ∧
    Restored table s u t := by
  cases h with
  | native hactive =>
      refine ⟨u.commit none s.state s.ownership, rfl, rfl, hactive.symm, rfl, rfl, rfl, ?_, ?_⟩
      · intro k hk
        rw [hactive] at hk
        cases hk
      · intro k _
        rfl
  | @plain k hactive hid hcallbacks hserialize =>
      have hnamed : UInt16.ofNat (table k).id.length ≠ 0 :=
        idLength_ne_zero (hs.named k (hs.active k hactive)) hid
      have hfind := findController_of_mem hu.distinct (hregistered k hactive)
      refine ⟨u.commit (some k) s.state s.ownership, ?_, rfl, hactive.symm, rfl, rfl, rfl, ?_, ?_⟩
      · unfold loadPayload headOf
        rw [if_neg hnamed, hfind]
        dsimp only
        rw [hcallbacks, hserialize]
        rfl
      · intro j hj hsome
        rw [hactive] at hj
        cases hj
        rw [hserialize] at hsome
        cases hsome
      · intro j _
        rfl
  | @own k _ serialize hactive hid hcallbacks hserialize hbytes hsmall =>
      have hnamed : UInt16.ofNat (table k).id.length ≠ 0 :=
        idLength_ne_zero (hs.named k (hs.active k hactive)) hid
      have hfind := findController_of_mem hu.distinct (hregistered k hactive)
      obtain ⟨deserialize, hdeserialize⟩ := deserialize_of_valid hcallbacks hserialize
      have hback := hinverts k serialize deserialize hserialize hdeserialize s.state (s.memory k)
        (u.memory k) payload hbytes
      refine ⟨{ u with memory := Function.update u.memory k (s.memory k) }.commit (some k) s.state
        s.ownership, ?_, rfl, hactive.symm, rfl, rfl, rfl, ?_, ?_⟩
      · unfold loadPayload headOf
        rw [if_neg hnamed, hfind]
        dsimp only
        rw [hcallbacks, hserialize, hdeserialize]
        dsimp only
        rw [if_neg (by simp), if_neg (by simp), hback]
        rfl
      · intro j hj _
        rw [hactive] at hj
        cases hj
        exact Function.update_self _ _ _
      · intro j hj
        have hne : j ≠ k := by
          rintro rfl
          exact hj hactive
        exact Function.update_of_ne hne _ _

/-- A load that fails leaves what the core owns. -/
structure Untouched (u t : Core κ π ε) : Prop where
  controllers : t.controllers = u.controllers
  active : t.active = u.active
  state : t.state = u.state
  ownership : t.ownership = u.ownership
  trace : t.trace = u.trace

/-- What a load answers and leaves. -/
structure Loaded (u : Core κ π ε) (r : Bool × Core κ π ε) : Prop where
  controllers : r.2.controllers = u.controllers
  active : ∀ k ∈ r.2.active, k ∈ u.controllers ∨ k ∈ u.active
  refused : r.1 = false → Untouched u r.2

omit [DecidableEq κ] [Inhabited ε] in
theorem Loaded.same (u : Core κ π ε) : Loaded u (false, u) :=
  ⟨rfl, fun _ hk => Or.inr hk, fun _ => ⟨rfl, rfl, rfl, rfl, rfl⟩⟩

omit [DecidableEq κ] in
theorem Loaded.commit {t : Core κ π ε} (h : t.controllers = u.controllers) {active : Option κ}
    (hactive : ∀ k ∈ active, k ∈ u.controllers) (state : ForeignState)
    (ownership : CEnum ForeignOwnership) : Loaded u (true, t.commit active state ownership) :=
  ⟨h, fun k hk => Or.inl (hactive k hk), fun hfalse => nomatch hfalse⟩

theorem loaded_loadPayload (u : Core κ π ε) (h : Head) (id payload : Bytes) :
    Loaded u (loadPayload table u h id payload) := by
  unfold loadPayload
  split
  · split
    · exact .same u
    · refine .commit rfl ?_ _ _
      intro k hk
      cases hk
  · cases hfind : findController table u.controllers id with
    | none => exact .same u
    | some k =>
        have hactive : ∀ j ∈ some k, j ∈ u.controllers := by
          intro j hj
          cases hj
          exact (mem_of_findController hfind).1
        dsimp only
        split
        · exact .same u
        · split
          · split
            · exact .same u
            · split
              · apply Loaded.commit
                · rfl
                · exact hactive
              · exact ⟨rfl, fun _ hk => Or.inr hk, fun _ => ⟨rfl, rfl, rfl, rfl, rfl⟩⟩
          · split
            · exact .same u
            · exact .commit rfl hactive _ _

theorem within_readState {r : Nat} (h : 60 ≤ r) :
    Within 0 readState r fun _ r' => r' = r - 60 := by
  unfold readState
  apply Within.word (by omega)
  intro state
  apply Within.word (by omega)
  intro stateFrame
  apply Within.long (by omega)
  intro x
  apply Within.long (by omega)
  intro y
  apply Within.long (by omega)
  intro vx
  apply Within.long (by omega)
  intro vy
  apply Within.word (by omega)
  intro facing
  apply Within.word (by omega)
  intro grounded
  apply Within.word (by omega)
  intro fastFall
  apply Within.word (by omega)
  intro airCause
  apply Within.word (by omega)
  intro jumpPhase
  apply Within.pure
  omega

theorem within_readHead {r : Nat} (h : FOREIGN_SAVE_FIXED_SIZE ≤ r) :
    Within 0 readHead r fun _ r' => r' = r - FOREIGN_SAVE_FIXED_SIZE := by
  have hsize : FOREIGN_SAVE_FIXED_SIZE = 80 := rfl
  unfold readHead
  apply Within.word (by omega)
  intro magic
  apply Within.refuse
  intro _
  apply Within.half (by omega)
  intro format
  apply Within.refuse
  intro _
  apply Within.half (by omega)
  intro idLength
  apply Within.refuse
  intro _
  apply Within.word (by omega)
  intro ownership
  apply Within.refuse
  intro _
  apply (within_readState (by omega)).bind
  intro state r' hr'
  apply Within.word (by omega)
  intro version
  apply Within.word (by omega)
  intro payloadSize
  apply Within.pure
  omega

/-- A load reads nothing outside its bytes. -/
theorem load_cases (table : κ → ForeignController π ι ρ) (u : Core κ π ε) (src : Bytes) :
    ∃ r, snesForeignLoad table u src = .ok r ∧ Loaded u r := by
  unfold snesForeignLoad
  split
  · exact ⟨_, rfl, .same u⟩
  · rename_i hsize
    have hread := within_readHead (Nat.not_lt.1 hsize) ⟨src, 0⟩ (by simp)
    rcases hread with hstop | ⟨h, r', pos, hok, hpos, hr'⟩
    · have hrun : readHead.run ⟨src, 0⟩ = .error .refused := hstop
      rw [hrun]
      exact ⟨_, rfl, .same u⟩
    · have hrun : readHead.run ⟨src, 0⟩ = .ok (h, ⟨src, pos⟩) := hok
      rw [hrun]
      dsimp only at hpos ⊢
      split
      · exact ⟨_, rfl, .same u⟩
      · rename_i hwhole
        obtain ⟨id, -, hid⟩ :=
          fetchBytes_ok (p := src) (i := pos) (n := h.idLength.toNat) (by omega)
        obtain ⟨payload, -, hpayload⟩ := fetchBytes_ok (p := src) (i := pos + h.idLength.toNat)
          (n := h.payloadSize.toNat) (by omega)
        rw [hid, ok_bind, hpayload, ok_bind]
        exact ⟨_, rfl, loaded_loadPayload u h id payload⟩

/-! ## Runs -/

theorem Registry.next {act : Act κ π ι ρ ε} {t : Core κ π ε} (hs : Registry table s)
    (h : s.next table act = some t) : Registry table t := by
  cases act with
  | register k =>
      cases h
      exact hs.register k
  | select id =>
      cases h
      exact hs.select id
  | setOwnership ownership =>
      cases h
      exact hs.of_same rfl hs.active
  | tick input entry =>
      cases h
      obtain ⟨hcontrollers, hactive⟩ : (s.tick table input entry).controllers = s.controllers ∧
          (s.tick table input entry).active = s.active := tick_frame s input entry
      exact hs.of_same hcontrollers (hactive ▸ hs.active)
  | resolve hit note =>
      cases h
      obtain ⟨hcontrollers, hactive⟩ : (s.resolve table hit note).controllers = s.controllers ∧
          (s.resolve table hit note).active = s.active := resolve_frame s hit note
      exact hs.of_same hcontrollers (hactive ▸ hs.active)
  | note note =>
      cases h
      exact hs.of_same rfl hs.active
  | write state =>
      dsimp only [Core.next] at h
      split at h
      · cases h
        exact hs.of_same rfl hs.active
      · cases h
  | work k own =>
      cases h
      exact hs.of_same rfl hs.active
  | load src =>
      obtain ⟨r, hload, hloaded⟩ := load_cases table s src
      dsimp only [Core.next] at h
      rw [hload] at h
      cases h
      apply hs.of_same hloaded.controllers
      intro k hk
      rcases hloaded.active k hk with hk | hk
      · exact hk
      · exact hs.active k hk

theorem registry_of_run {memory : κ → π} {steps : List (Core κ π ε × Act κ π ι ρ ε × Core κ π ε)}
    (h : Run (Core.Step table) (Core.start memory) steps s) : Registry table s :=
  h.invariant (I := Registry table) (fun _ _ _ hstep ha => ha.next hstep) (registry_start memory)

/-- A load of what a save wrote restores the active controller, its own part, the state and the
ownership; a load that fails leaves them, and the trace. -/
theorem foreign_snapshot (table : κ → ForeignController π ι ρ) (hinverts : ∀ k, (table k).Inverts)
    (before after : κ → π) (s u : Core κ π ε)
    (steps steps' : List (Core κ π ε × Act κ π ι ρ ε × Core κ π ε))
    (hs : Run (Core.Step table) (Core.start before) steps s)
    (hu : Run (Core.Step table) (Core.start after) steps' u) :
    (∀ dst, ∃ saved, snesForeignSave table s dst = .ok saved ∧
      ∀ buffer size, saved = some (buffer, size) → s.controllers ⊆ u.controllers →
        ∃ t, snesForeignLoad table u (buffer.take size) = .ok (true, t) ∧ Restored table s u t) ∧
    ∀ src, ∃ accepted t, snesForeignLoad table u src = .ok (accepted, t) ∧
      (accepted = false → Untouched u t) := by
  have hs := registry_of_run hs
  have hu := registry_of_run hu
  constructor
  · intro dst
    rcases save_cases table s dst with hnone
      | ⟨id, version, payload, htaken, hownership, rest, hsave⟩
    · exact ⟨none, hnone, fun _ _ h => nomatch h⟩
    · refine ⟨_, hsave, ?_⟩
      intro buffer size heq hregistered
      cases heq
      rw [List.take_left]
      obtain ⟨hid, hpayload⟩ := htaken.small
      have hmax : FOREIGN_SAVE_MAX_ID = 96 := rfl
      have hroom : SNES_FOREIGN_SAVE_MAX_PAYLOAD = 4096 := rfl
      have hload : snesForeignLoad table u
        (headImage (headOf s id version payload) (id ++ payload)) =
          .ok (loadPayload table u (headOf s id version payload) id payload) :=
          load_image (UInt16.toNat_ofNat_of_lt' (by simp [UInt16.size]; omega))
        (UInt32.toNat_ofNat_of_lt' (by simp [UInt32.size]; omega)) hid hpayload hownership
      obtain ⟨t, ht, hrestored⟩ := loadPayload_taken hinverts hs hu
        (fun k hk => hregistered (hs.active k hk)) htaken
      rw [ht] at hload
      exact ⟨t, hload, hrestored⟩
  · intro src
    obtain ⟨⟨accepted, t⟩, hload, hloaded⟩ := load_cases table u src
    exact ⟨accepted, t, hload, hloaded.refused⟩

end Load

/-! ## Captain Falcon -/

theorem falconDeserialize_serialize {f : FalconFighter} {cap : Nat} {payload : Bytes}
    (h : falconSerialize f cap = some payload) :
    falconDeserialize payload = some f ∧ payload.length = 1 + sizeofFalconFighter := by
  unfold falconSerialize at h
  split at h
  · cases h
  · cases h
    constructor
    · unfold falconDeserialize
      dsimp only
      rw [dif_pos f.toList_length, if_neg (by simp)]
      rfl
    · rw [List.length_cons, f.toList_length, Nat.add_comm]

theorem captainFalcon_inverts (id : Bytes)
    (reset : ForeignState → FalconFighter → ForeignState × FalconFighter)
    (tick : ι → ForeignState → FalconFighter → ForeignState × FalconFighter)
    (resolve : ρ → ForeignState → FalconFighter → ForeignState × FalconFighter) :
    (captainFalcon id reset tick resolve).Inverts := by
  intro serialize deserialize hserialize hdeserialize state own live payload hpayload
  cases hserialize
  cases hdeserialize
  unfold cfSerialize at hpayload
  rw [if_neg (by simp [SNES_FOREIGN_SAVE_MAX_PAYLOAD])] at hpayload
  obtain ⟨hback, hlen⟩ := falconDeserialize_serialize hpayload
  unfold cfDeserialize
  rw [if_neg (by simp [captainFalcon, hlen, sizeofFalconFighter]), hback]

/-- Captain Falcon, standing still. -/
def idleFalcon (_ : Unit) : ForeignController FalconFighter Unit Unit :=
  captainFalcon [0x66, 0x61, 0x6c, 0x63, 0x6f, 0x6e] (fun state f => (state, f))
    (fun _ state f => (state, f)) (fun _ state f => (state, f))

def falconActs : List (Act Unit FalconFighter Unit Unit Unit) :=
  [.register (), .select [0x66, 0x61, 0x6c, 0x63, 0x6f, 0x6e], .setOwnership (.is .foreign),
    .work () (.replicate 152 7), .tick () ()]

theorem foreign_snapshot_falcon : ∃ s u : Core Unit FalconFighter Unit, s.active = some () ∧
    s.memory () = .replicate 152 7 ∧ u.active = none ∧ u.memory () = .replicate 152 0 ∧
    ∃ buffer t, snesForeignSave idleFalcon s (List.replicate 300 0) = .ok (some (buffer, 239)) ∧
      snesForeignLoad idleFalcon u (buffer.take 239) = .ok (true, t) ∧ t.active = some () ∧
      t.memory () = .replicate 152 7 := by
  have hruns : (pathOf (Core.next idleFalcon) (Core.start fun _ => .replicate 152 0) falconActs).map
      (fun r => (r.2.active, r.2.memory (), r.2.controllers,
        (snesForeignSave idleFalcon r.2 (List.replicate 300 0)).toOption.map fun o =>
        o.map Prod.snd)) =
      some (some (), .replicate 152 7, [()], some (some 239)) := by decide +kernel
  have hregisters : (pathOf (Core.next (ρ := Unit) (ι := Unit) (ε := Unit) idleFalcon)
      (Core.start fun _ => .replicate 152 0) [.register ()]).map
        (fun r => (r.2.active, r.2.memory (), r.2.controllers)) =
      some (none, .replicate 152 0, [()]) := rfl
  obtain ⟨⟨steps, s⟩, hpath, hfacts⟩ := Option.map_eq_some_iff.1 hruns
  obtain ⟨⟨steps', u⟩, hpath', hfacts'⟩ := Option.map_eq_some_iff.1 hregisters
  obtain ⟨hactive, hfacts⟩ := Prod.mk.inj hfacts
  obtain ⟨hmemory, hfacts⟩ := Prod.mk.inj hfacts
  obtain ⟨hcontrollers, hsize⟩ := Prod.mk.inj hfacts
  obtain ⟨hactive', hfacts'⟩ := Prod.mk.inj hfacts'
  obtain ⟨hmemory', hcontrollers'⟩ := Prod.mk.inj hfacts'
  have hinverts : ∀ k, (idleFalcon k).Inverts := fun _ => captainFalcon_inverts _ _ _ _
  obtain ⟨saved, hsave, hload⟩ := (foreign_snapshot idleFalcon hinverts _ _ s u steps steps'
    (Run.path hpath) (Run.path hpath')).1 (List.replicate 300 0)
  have hsize : (Except.ok (ε := Stop) saved).toOption.map (fun o => o.map Prod.snd) =
    some (some 239) := by
    rw [← hsave]
    exact hsize
  obtain ⟨⟨buffer, size⟩, rfl, rfl⟩ := Option.map_eq_some_iff.1 (Option.some.inj hsize)
  have hsub : s.controllers ⊆ u.controllers := by
    rw [hcontrollers, hcontrollers']
    exact List.Subset.refl _
  obtain ⟨t, ht, hrestored⟩ := hload buffer 239 rfl hsub
  refine ⟨s, u, hactive, hmemory, hactive', hmemory', buffer, t, hsave, ht,
    hrestored.active.trans hactive, ?_⟩
  rw [hrestored.own () hactive rfl, hmemory]

end SmwRecomp.Foreign
