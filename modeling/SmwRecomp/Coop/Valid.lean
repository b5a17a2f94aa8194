import SmwRecomp.Coop.State
import SmwRecomp.Coop.Emit

/-!
# What `valid` says

* `Valid` — the conditions `valid` checks, as one structure; `valid_iff` — they are the same.
* `Present` — a player of the session; `Addressee` — nobody, or a player of the session.
* `valid_freshPlayers` — any number of freshly initialised players is valid.
-/

set_option autoImplicit false

namespace SmwRecomp.Coop

/-! ## The conditions -/

/-- Some player has this id. -/
def Present (players : List CoopPlayer) (id : CoopPlayerId) : Prop := ∃ p ∈ players, p.id = id

/-- Nobody, or a player. -/
def Addressee (players : List CoopPlayer) (id : CoopPlayerId) : Prop :=
  id ≠ COOP_NO_PLAYER → Present players id

structure ValidCamera (c : CoopCamera) : Prop where
  frame : c.initialized = true → 32 ≤ c.width ∧ 32 ≤ c.height ∧ 1 ≤ c.roomWidth ∧ 1 ≤ c.roomHeight
  travelX : -1 ≤ c.travelX ∧ c.travelX ≤ 1
  travelY : -1 ≤ c.travelY ∧ c.travelY ≤ 1

/-- What is checked of one player alone, apart from the id. -/
structure ValidBody (p : CoopPlayer) : Prop where
  life : p.life.toWord ≤ Enumeration.code CoopLifeState.catchupBubble
  power : p.power.toWord ≤ Enumeration.code CoopPower.fire
  reserve : p.reserve ≤ 4
  halfWidth : 1 ≤ p.halfWidth ∧ p.halfWidth ≤ 256
  height : 1 ≤ p.height ∧ p.height ≤ 512

/-- Two players share neither a mount nor a held object. -/
structure OwnsApart (p q : CoopPlayer) : Prop where
  mount : p.mount ≠ COOP_NO_ENTITY → p.mount ≠ q.mount
  held : p.heldObject ≠ COOP_NO_ENTITY → p.heldObject ≠ q.heldObject

structure ValidEvent (players : List CoopPlayer) (e : CoopEvent) : Prop where
  kind : e.kind.toWord ≤ Enumeration.code CoopEventKind.exit
  player : Addressee players e.player

structure ValidAction (players : List CoopPlayer) (a : CoopAction) : Prop where
  kind : a.kind.toWord ≤ Enumeration.code CoopActionKind.gameOver
  player : Addressee players a.player

structure Valid (s : CoopSession) : Prop where
  ticks : s.ticksPerSecond ≠ 0 ∧ s.ticksPerSecond ≤ 1000
  outcome : s.outcome.toWord ≤ Enumeration.code CoopOutcome.clear
  primary : Present s.players s.primary
  leader : Addressee s.players s.camera.leader
  camera : ValidCamera s.camera
  ids : ∀ p ∈ s.players, p.id ≠ COOP_NO_PLAYER
  distinct : (s.players.map CoopPlayer.id).Nodup
  bodies : ∀ p ∈ s.players, ValidBody p
  apart : s.players.Pairwise OwnsApart
  events : ∀ e ∈ s.events, ValidEvent s.players e
  actions : ∀ a ∈ s.actions, ValidAction s.players a

/-! ## The checks -/

theorem coopPlayer_isNone {s : CoopSession} {id : CoopPlayerId} :
    (coopPlayer s id).isNone = false ↔ Present s.players id := by
  rw [Option.isNone_eq_false_iff]
  exact findKey_isSome

theorem validAddressee_iff {s : CoopSession} {id : CoopPlayerId} :
    validAddressee s id = true ↔ Addressee s.players id := by
  unfold validAddressee Addressee
  rw [Bool.not_eq_true', Bool.and_eq_false_iff, coopPlayer_isNone, decide_eq_false_iff_not, not_not,
    ← Classical.or_iff_not_imp_left]

theorem validHeader_iff {s : CoopSession} : validHeader s = true ↔
    (s.ticksPerSecond ≠ 0 ∧ s.ticksPerSecond ≤ 1000) ∧
      s.outcome.toWord ≤ Enumeration.code CoopOutcome.clear ∧ Present s.players s.primary ∧
      Addressee s.players s.camera.leader := by
  have hleader := @validAddressee_iff s s.camera.leader
  unfold validAddressee at hleader
  unfold validHeader
  simp only [Bool.not_eq_true', Bool.or_eq_false_iff, decide_eq_false_iff_not, coopPlayer_isNone,
    gt_iff_lt, UInt32.not_lt] at hleader ⊢
  rw [hleader]
  tauto

theorem validCamera_iff {c : CoopCamera} : validCamera c = true ↔ ValidCamera c := by
  unfold validCamera
  simp only [Bool.and_eq_true, Bool.not_eq_true', Bool.and_eq_false_iff, Bool.or_eq_false_iff,
    decide_eq_false_iff_not, Int32.not_lt, gt_iff_lt]
  constructor
  · rintro ⟨hframe, ⟨⟨hx, hx'⟩, hy⟩, hy'⟩
    refine ⟨fun hi => ?_, ⟨hx, hx'⟩, ⟨hy, hy'⟩⟩
    rcases hframe with h | ⟨⟨⟨h₁, h₂⟩, h₃⟩, h₄⟩
    · rw [h] at hi; cases hi
    · exact ⟨h₁, h₂, h₃, h₄⟩
  · rintro ⟨hframe, hx, hy⟩
    refine ⟨?_, ⟨⟨hx.1, hx.2⟩, hy.1⟩, hy.2⟩
    cases hi : c.initialized with
    | false => exact Or.inl rfl
    | true =>
        obtain ⟨h₁, h₂, h₃, h₄⟩ := hframe hi
        exact Or.inr ⟨⟨⟨h₁, h₂⟩, h₃⟩, h₄⟩

theorem validPlayer_iff {p : CoopPlayer} :
    validPlayer p = true ↔ p.id ≠ COOP_NO_PLAYER ∧ ValidBody p := by
  unfold validPlayer
  simp only [Bool.not_eq_true', Bool.or_eq_false_iff, decide_eq_false_iff_not, gt_iff_lt,
    UInt32.not_lt, Int32.not_lt]
  constructor
  · rintro ⟨⟨⟨⟨⟨⟨⟨hid, hlife⟩, hpower⟩, hreserve⟩, hw⟩, hw'⟩, hh⟩, hh'⟩
    exact ⟨hid, hlife, hpower, hreserve, ⟨hw, hw'⟩, ⟨hh, hh'⟩⟩
  · rintro ⟨hid, hlife, hpower, hreserve, ⟨hw, hw'⟩, ⟨hh, hh'⟩⟩
    exact ⟨⟨⟨⟨⟨⟨⟨hid, hlife⟩, hpower⟩, hreserve⟩, hw⟩, hw'⟩, hh⟩, hh'⟩

theorem clash_iff {p q : CoopPlayer} : clash p q = false ↔ p.id ≠ q.id ∧ OwnsApart p q := by
  unfold clash
  simp only [Bool.or_eq_false_iff, Bool.and_eq_false_iff, decide_eq_false_iff_not]
  constructor
  · rintro ⟨⟨hid, hm⟩, hh⟩
    exact ⟨hid, fun h => hm.resolve_left (not_not.2 h), fun h => hh.resolve_left (not_not.2 h)⟩
  · rintro ⟨hid, hm, hh⟩
    exact ⟨⟨hid, not_or_of_imp hm⟩, not_or_of_imp hh⟩

theorem validPlayers_iff : ∀ {ps : List CoopPlayer}, validPlayers ps = true ↔
    (∀ p ∈ ps, p.id ≠ COOP_NO_PLAYER) ∧ (ps.map CoopPlayer.id).Nodup ∧ (∀ p ∈ ps, ValidBody p) ∧
      ps.Pairwise OwnsApart
  | [] => by simp [validPlayers]
  | p :: ps => by
    unfold validPlayers
    rw [Bool.and_eq_true, Bool.and_eq_true, validPlayer_iff, validPlayers_iff, List.all_eq_true]
    simp only [Bool.not_eq_true', clash_iff, List.forall_mem_cons, List.map_cons, List.nodup_cons,
      List.pairwise_cons, List.mem_map, not_exists, not_and]
    constructor
    · rintro ⟨⟨⟨hid, hbody⟩, hclash⟩, hids, hnd, hbodies, happ⟩
      exact ⟨⟨hid, hids⟩, ⟨fun q hq he => (hclash q hq).1 he.symm, hnd⟩, ⟨hbody, hbodies⟩,
        fun q hq => (hclash q hq).2, happ⟩
    · rintro ⟨⟨hid, hids⟩, ⟨hne, hnd⟩, ⟨hbody, hbodies⟩, hown, happ⟩
      exact ⟨⟨⟨hid, hbody⟩, fun q hq => ⟨fun he => hne q hq he.symm, hown q hq⟩⟩,
        hids, hnd, hbodies, happ⟩

/-- **The check is the structure.** -/
theorem valid_iff {s : CoopSession} : valid s = true ↔ Valid s := by
  have hevents : s.events.all (validEvent s) = true ↔ ∀ e ∈ s.events, ValidEvent s.players e := by
    simp only [List.all_eq_true, validEvent, Bool.and_eq_true, validAddressee_iff,
      Bool.not_eq_true', decide_eq_false_iff_not, gt_iff_lt, UInt32.not_lt]
    exact forall₂_congr fun e _ => ⟨fun h => ⟨h.1, h.2⟩, fun h => ⟨h.kind, h.player⟩⟩
  have hactions : s.actions.all (validAction s) = true ↔
      ∀ a ∈ s.actions, ValidAction s.players a := by
    simp only [List.all_eq_true, validAction, Bool.and_eq_true, validAddressee_iff,
      Bool.not_eq_true', decide_eq_false_iff_not, gt_iff_lt, UInt32.not_lt]
    exact forall₂_congr fun a _ => ⟨fun h => ⟨h.1, h.2⟩, fun h => ⟨h.kind, h.player⟩⟩
  unfold valid
  rw [Bool.and_eq_true, Bool.and_eq_true, Bool.and_eq_true, Bool.and_eq_true, validHeader_iff,
    validCamera_iff, validPlayers_iff, hevents, hactions]
  constructor
  · rintro ⟨⟨⟨⟨⟨ht, ho, hp, hl⟩, hc⟩, hids, hnd, hb, ha⟩, he⟩, hact⟩
    exact ⟨ht, ho, hp, hl, hc, hids, hnd, hb, ha, he, hact⟩
  · rintro ⟨ht, ho, hp, hl, hc, hids, hnd, hb, ha, he, hact⟩
    exact ⟨⟨⟨⟨⟨ht, ho, hp, hl⟩, hc⟩, hids, hnd, hb, ha⟩, he⟩, hact⟩

/-! ## Initialisation -/

theorem initPlayer_body (i : Nat) : ValidBody (initPlayer i) :=
  ⟨by show (0 : UInt32) ≤ 3; decide, by show (0 : UInt32) ≤ 3; decide, by show (0 : UInt32) ≤ 4; decide,
    by show (1 : Int32) ≤ 8 ∧ (8 : Int32) ≤ 256; decide,
    by show (1 : Int32) ≤ 16 ∧ (16 : Int32) ≤ 512; decide⟩

/-- Up to `2 ^ 32 - 1` freshly initialised players pass the checks. -/
theorem freshPlayers_valid {n : Nat} (hn : n ≤ COOP_NO_PLAYER.toNat) :
    (∀ p ∈ (List.range n).map initPlayer, p.id ≠ COOP_NO_PLAYER) ∧
    (((List.range n).map initPlayer).map CoopPlayer.id).Nodup ∧
    (∀ p ∈ (List.range n).map initPlayer, ValidBody p) ∧
    ((List.range n).map initPlayer).Pairwise OwnsApart := by
  have hmax : COOP_NO_PLAYER.toNat = 4294967295 := rfl
  have hid : ∀ {i}, i < n → (initPlayer i).id.toNat = i := fun {i} hi =>
    UInt32.toNat_ofNat_of_lt' (Nat.lt_trans (Nat.lt_of_lt_of_le hi hn) (by decide))
  refine ⟨?_, ?_, ?_, ?_⟩
  · intro p hp he
    obtain ⟨i, hi, rfl⟩ := List.mem_map.1 hp
    have := hid (List.mem_range.1 hi)
    rw [he, hmax] at this
    have := List.mem_range.1 hi
    omega
  · rw [List.map_map]
    refine List.Nodup.map_on (fun i hi j hj he => ?_) List.nodup_range
    rw [← hid (List.mem_range.1 hi), ← hid (List.mem_range.1 hj)]
    exact congrArg UInt32.toNat he
  · intro p hp
    obtain ⟨i, -, rfl⟩ := List.mem_map.1 hp
    exact initPlayer_body i
  · rw [List.pairwise_map]
    exact List.Pairwise.imp (fun _ => ⟨fun h => absurd rfl h, fun h => absurd rfl h⟩)
      (List.pairwise_lt_range)

theorem coopSessionInit_some {allocator : Allocator} {count : Nat} {hz : UInt32} {s : CoopSession}
    (h : coopSessionInit allocator count hz = some s) :
    2 ≤ count ∧ count < COOP_NO_PLAYER.toNat ∧ hz ≠ 0 ∧ hz ≤ 1000 ∧
      s.players = (List.range count).map initPlayer ∧ s.primary = 0 ∧ s.camera = initCamera ∧
      s.ticksPerSecond = hz ∧ s.outcome = .is .continue ∧ s.failed = false ∧ s.events = [] ∧
      s.actions = [] := by
  unfold coopSessionInit at h
  split at h
  · cases h
  rename_i hrange
  simp only [not_or, UInt32.not_lt, gt_iff_lt] at hrange
  split at h
  · cases h
  · cases h
    exact ⟨by omega, by omega, hrange.2.2.2.1, hrange.2.2.2.2, rfl, rfl, rfl, rfl, rfl,
      rfl, rfl, rfl⟩

theorem coopSessionInit_valid {allocator : Allocator} {count : Nat} {hz : UInt32} {s : CoopSession}
    (h : coopSessionInit allocator count hz = some s) : Valid s := by
  obtain ⟨hlo, hhi, hz₀, hz₁, hp, hprimary, hc, ht, ho, -, he, ha⟩ := coopSessionInit_some h
  obtain ⟨hids, hnd, hbodies, happ⟩ := freshPlayers_valid (Nat.le_of_lt hhi)
  rw [← hp] at hids hnd hbodies happ
  refine ⟨by rw [ht]; exact ⟨hz₀, hz₁⟩, by rw [ho]; decide, ?_, ?_, ?_, hids, hnd,
    hbodies, happ, ?_, ?_⟩
  · rw [hprimary, hp]
    exact ⟨initPlayer 0, List.mem_map_of_mem (List.mem_range.2 (by omega)), rfl⟩
  · rw [hc]; exact fun h => absurd rfl h
  · rw [hc]; exact ⟨(fun h => nomatch h), by decide, by decide⟩
  · rw [he]; exact fun _ h => nomatch h
  · rw [ha]; exact fun _ h => nomatch h

end SmwRecomp.Coop
