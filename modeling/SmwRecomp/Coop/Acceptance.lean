import SmwRecomp.Coop.Clearance

/-!
# What an accepted placement is

* `Box` — the pixels of a body or of an obstacle; `bodyBox`, `spriteBox`, `extendedBox`,
  `playerBox`.
* `Floor`, `OnPlatform`, `Ridden` — a floor under a corner, a platform under a body, a mount its
  rider owns.
* `Accepted` — a placement that is safe; `safe_accepted` — what `coop_terrain_safe` accepts is.
-/

set_option autoImplicit false

namespace SmwRecomp.Coop

/-! ## Boxes -/

/-- The pixels of `[left, right)` by `[top, feet)`. -/
structure Box where
  left : Int
  right : Int
  top : Int
  feet : Int

def Box.Has (b : Box) (x y : Int) : Prop := b.left ≤ x ∧ x < b.right ∧ b.top ≤ y ∧ y < b.feet

/-- No pixel is in both. -/
def Box.Apart (a b : Box) : Prop := ∀ x y, a.Has x y → ¬ b.Has x y

theorem Box.apart_of {a b : Box}
    (h : ¬ (b.left < a.right ∧ a.left < b.right ∧ b.top < a.feet ∧ a.top < b.feet)) :
    a.Apart b := by
  intro x y ha hb
  unfold Box.Has at ha hb
  omega

namespace CoopTerrain

variable (t : CoopTerrain)

/-- The clearance of a returning player about a centre, its feet where the anchor's are. -/
def bodyBox (returning anchor : CoopPlayer) (center : Int) : Box :=
  let (_, clearance, half) := pose returning
  let feet := anchor.y.toInt + anchor.height.toInt.tdiv 2
  ⟨center - half, center + half, feet - clearance, feet⟩

/-- A sprite with sixteen pixels about it. -/
def spriteBox (i : Nat) : Box :=
  let x := t.coordinate 0xe4 0x14e0 i
  let y := t.coordinate 0xd8 0x14d4 i
  ⟨x - 16, x + 48, y - 16, y + 48⟩

/-- An extended object with eight pixels about it. -/
def extendedBox (i : Nat) : Box :=
  let x := t.coordinate 0x171f 0x1733 i
  let y := t.coordinate 0x1715 0x1729 i
  ⟨x - 8, x + 24, y - 8, y + 24⟩

/-- A recorded body with four pixels on either side. -/
def playerBox (p : CoopPlayer) : Box :=
  let half := if p.mount ≠ COOP_NO_ENTITY then 16 else p.halfWidth.toInt
  let height := if p.mount ≠ COOP_NO_ENTITY then 48 else p.height.toInt
  let feet := p.y.toInt + p.height.toInt.tdiv 2
  ⟨p.x.toInt - half - 4, p.x.toInt + half + 5, feet - height, feet⟩

/-! ## Supports -/

/-- A pixel at the top of a block that is a floor. -/
def Floor (layer : Nat) (x y : Int) : Prop :=
  ∃ b, t.block layer x y = .ok (some b) ∧ t.dangerous b = false ∧ 0x100 ≤ b ∧
    b < 0x16e ∧ y % 16 = 0 ∧
    -- Lava in the underground tilesets is no floor.
    ¬ ((t.ram 0x1931 = 3 ∨ t.ram 0x1931 = 14) ∧ 0x159 ≤ b ∧ b ≤ 0x15b)

/-- A live platform whose top holds a whole body. -/
def OnPlatform (i : Nat) (body : Box) : Prop :=
  t.ram (0x14c8 + i) = 8 ∧ 0x55 ≤ t.ram (0x9e + i) ∧ t.ram (0x9e + i) ≤ 0x59 ∧
    body.feet = t.coordinate 0xd8 0x14d4 i + 1 ∧
    ∃ dx width, t.rom8 (0x03b56c + ((t.ram (0x1662 + i)).toNat &&& 0x3f)) = .ok (some dx) ∧
      t.rom8 (0x03b5a8 + ((t.ram (0x1662 + i)).toNat &&& 0x3f)) = .ok (some width) ∧
      t.coordinate 0xe4 0x14e0 i + (Int8.ofNat dx).toInt ≤ body.left ∧
      body.right ≤ t.coordinate 0xe4 0x14e0 i + (Int8.ofNat dx).toInt + width

/-- A mount whose owner rides it, in play or in a bubble. -/
def Ridden (i : Nat) : Prop :=
  t.ram (0x9e + i) = 0x35 ∧ t.ram (0x14c8 + i) = 8 ∧ ∃ session, t.session = some session ∧
    ∃ e ∈ t.entities, e.kind = COOP_ENTITY_NORMAL ∧ e.slot.toNat = i ∧ e.type = 0x35 ∧
    e.flags = COOP_ENTITY_RIDDEN ∧
      ∃ p, coopPlayer session e.owner = some p ∧ p.mount = e.id ∧
        (p.life = .is .playing ∨ p.life = .is .deathBubble ∨ p.life = .is .catchupBubble)

/-- A safe place for a returning player. -/
structure Accepted (returning anchor : CoopPlayer) (x y : Int) : Prop where
  clear : ∀ layer < 2, t.enabled layer = true → ∀ px py, (bodyBox returning anchor x).Has px py →
    t.Passable layer anchor.swimming (px + (t.layerOffset layer).1) (py + (t.layerOffset layer).2)
  supported : (∃ layer < 2, t.enabled layer = true ∧
      t.Floor layer ((bodyBox returning anchor x).left + (t.layerOffset layer).1)
        ((bodyBox returning anchor x).feet + (t.layerOffset layer).2) ∧
      t.Floor layer ((bodyBox returning anchor x).right - 1 + (t.layerOffset layer).1)
        ((bodyBox returning anchor x).feet + (t.layerOffset layer).2)) ∨
    (∃ i < 12, t.OnPlatform i (bodyBox returning anchor x)) ∨ anchor.swimming = true
  sprites : ∀ i < 12, 8 ≤ t.ram (0x14c8 + i) → ¬ t.Ridden i →
    ¬ t.OnPlatform i (bodyBox returning anchor x) →
    (bodyBox returning anchor x).Apart (t.spriteBox i)
  extended : ∀ i < 10, t.ram (0x170b + i) ≠ 0 → (bodyBox returning anchor x).Apart (t.extendedBox i)
  players : ∀ session, t.session = some session → ∀ p ∈ session.players, p.id ≠ returning.id →
    p.life = .is .playing →
    (bodyBox returning anchor x).Apart (playerBox p)
  level : y + (pose returning).1.tdiv 2 = anchor.y.toInt + anchor.height.toInt.tdiv 2

variable {t}

/-! ## One helper after another -/

theorem footing_floor {layer : Nat} {x y : Int} (h : t.footing layer x y = .ok true) :
    t.Floor layer x y := by
  obtain ⟨r, hblock, h⟩ := checked_bind_ok h
  cases r with
  | none => cases h
  | some b =>
    dsimp only at h
    split at h
    · cases h
    · rename_i hsafe
      split at h
      · cases h
      · rename_i hlava
        simp only [checked_pure, Except.ok.injEq, Bool.and_eq_true, decide_eq_true_eq] at h
        obtain ⟨⟨hlow, hhigh⟩, halign⟩ := h
        refine ⟨b, hblock, Bool.eq_false_iff.mpr hsafe, hlow, hhigh, halign, fun hin => hlava ?_⟩
        obtain ⟨htileset, hrange⟩ := hin
        refine ⟨htileset.imp ?_ ?_, hrange⟩ <;>
        · intro heq
          rw [heq]
          rfl

theorem platformFooting_onPlatform {i : Nat} {body : Box}
    (h : t.platformFooting i body.left (body.right - 1) body.feet = .ok true) :
    t.OnPlatform i body := by
  unfold platformFooting at h
  split at h
  · cases h
  · rename_i hkind
    split at h
    · cases h
    · rename_i hfeet
      obtain ⟨r, hdx, h⟩ := checked_bind_ok h
      cases r with
      | none => cases h
      | some dx =>
        obtain ⟨r, hwidth, h⟩ := checked_bind_ok h
        cases r with
        | none => cases h
        | some width =>
          simp only [checked_pure, Except.ok.injEq, Bool.and_eq_true, decide_eq_true_eq] at h
          obtain ⟨⟨-, hleft⟩, hright⟩ := h
          simp only [not_or, not_not, UInt8.not_lt] at hkind
          obtain ⟨hlive, hfirst, hlast⟩ := hkind
          refine ⟨hlive, hfirst, hlast, not_not.mp hfeet, dx, width, hdx, hwidth, hleft, ?_⟩
          omega

theorem riderOwnsSprite_ridden {i : Nat} (h : t.riderOwnsSprite i = true) : t.Ridden i := by
  unfold riderOwnsSprite at h
  split at h
  · cases h
  · rename_i session hsession
    simp only [Bool.and_eq_true, decide_eq_true_eq, List.any_eq_true] at h
    obtain ⟨⟨htype, hlive⟩, e, hmem, ⟨⟨⟨hkind, hslot⟩, hmount⟩, hflags⟩, howner⟩ := h
    split at howner
    · cases howner
    · rename_i p hp
      simp only [Bool.and_eq_true, Bool.or_eq_true, decide_eq_true_eq, or_assoc] at howner
      exact ⟨htype, hlive, session, hsession, e, hmem, hkind, hslot, hmount, hflags, p, hp, howner⟩

theorem clearOfSprite_apart {i : Nat} {body : Box}
    (h : t.clearOfSprite body.left (body.right - 1) body.top body.feet i = .ok true)
    (hlive : 8 ≤ t.ram (0x14c8 + i))
    (hridden : ¬ t.Ridden i) (hplatform : ¬ t.OnPlatform i body) : body.Apart (t.spriteBox i) := by
  unfold clearOfSprite at h
  rw [if_neg (UInt8.not_lt.mpr hlive), if_neg (fun howns => hridden (riderOwnsSprite_ridden howns))]
    at h
  obtain ⟨on, hon, h⟩ := checked_bind_ok h
  cases on with
  | true => exact absurd (platformFooting_onPlatform hon) hplatform
  | false =>
    apply Box.apart_of
    simp only [Bool.false_eq_true, if_false, checked_pure, Except.ok.injEq, Bool.not_eq_true',
      Bool.and_eq_false_iff, decide_eq_false_iff_not] at h
    dsimp only [spriteBox]
    omega

theorem clearOfExtended_apart {i : Nat} {body : Box}
    (h : t.clearOfExtended body.left (body.right - 1) body.top body.feet i = true)
    (hlive : t.ram (0x170b + i) ≠ 0) :
    body.Apart (t.extendedBox i) := by
  unfold clearOfExtended at h
  rw [if_neg hlive] at h
  apply Box.apart_of
  simp only [Bool.not_eq_true', Bool.and_eq_false_iff, decide_eq_false_iff_not] at h
  dsimp only [extendedBox]
  omega

theorem clearOfPlayer_apart {returning p : CoopPlayer} {body : Box}
    (h : clearOfPlayer returning body.left (body.right - 1) body.top body.feet p = .ok true)
    (hother : p.id ≠ returning.id)
    (hplaying : p.life = .is .playing) : body.Apart (playerBox p) := by
  unfold clearOfPlayer at h
  rw [if_neg (by simp [hother, hplaying])] at h
  apply Box.apart_of
  dsimp only [playerBox] at h ⊢
  generalize (if p.mount ≠ COOP_NO_ENTITY then (16 : Int) else p.halfWidth.toInt) = half at h ⊢
  generalize (if p.mount ≠ COOP_NO_ENTITY then (48 : Int) else p.height.toInt) = height at h ⊢
  obtain ⟨otherFeet, hfeet, h⟩ := checked_bind_ok h
  obtain ⟨near, hnear, h⟩ := checked_bind_ok h
  obtain ⟨near', hnear', h⟩ := checked_bind_ok h
  obtain ⟨rfl, -⟩ := int32_eq_ok hfeet
  obtain ⟨rfl, -⟩ := int32_eq_ok hnear
  obtain ⟨rfl, -⟩ := int32_eq_ok hnear'
  split at h
  · omega
  · obtain ⟨far, hfar, h⟩ := checked_bind_ok h
    obtain ⟨far', hfar', h⟩ := checked_bind_ok h
    obtain ⟨rfl, -⟩ := int32_eq_ok hfar
    obtain ⟨rfl, -⟩ := int32_eq_ok hfar'
    split at h
    · omega
    · obtain ⟨otherTop, htop, h⟩ := checked_bind_ok h
      obtain ⟨rfl, -⟩ := int32_eq_ok htop
      simp only [checked_pure, Except.ok.injEq, Bool.not_eq_true', Bool.and_eq_false_iff,
        decide_eq_false_iff_not] at h
      omega

/-! ## Loops -/

end CoopTerrain

theorem allOk_true {α : Type} {check : α → Checked Bool} :
    ∀ {as : List α}, allOk check as = .ok true →
    ∀ a ∈ as, check a = .ok true
  | [], _ => fun _ hmem => absurd hmem List.not_mem_nil
  | a :: as, h => by
    obtain ⟨here, hhere, h⟩ := checked_bind_ok h
    cases here with
    | false => cases h
    | true => exact List.forall_mem_cons.mpr ⟨hhere, allOk_true h⟩

theorem anyOk_true {α : Type} {check : α → Checked Bool} :
    ∀ {as : List α}, anyOk check as = .ok true →
    ∃ a ∈ as, check a = .ok true
  | [], h => by cases h
  | a :: as, h => by
    obtain ⟨here, hhere, h⟩ := checked_bind_ok h
    obtain ⟨rest, hrest, h⟩ := checked_bind_ok h
    cases here with
    | true => exact ⟨a, List.mem_cons_self, hhere⟩
    | false =>
      cases h
      obtain ⟨b, hmem, hb⟩ := anyOk_true hrest
      exact ⟨b, List.mem_cons_of_mem a hmem, hb⟩

namespace CoopTerrain

variable {t : CoopTerrain}

/-! ## The placement -/

/-- A layer that was looked at is clear of the body, and supports it when it says so. -/
theorem layerSupport_some {body : Box} {water support : Bool} {layer : Nat}
    (hwide : body.left < body.right)
    (h : t.layerSupport body.left (body.right - 1) body.top body.feet water layer =
      .ok (some support))
    (hon : t.enabled layer = true) :
    (∀ x y, body.Has x y → t.Passable layer water (x + (t.layerOffset layer).1)
      (y + (t.layerOffset layer).2)) ∧
    (support = true →
      t.Floor layer (body.left + (t.layerOffset layer).1) (body.feet + (t.layerOffset layer).2) ∧
      t.Floor layer (body.right - 1 + (t.layerOffset layer).1)
        (body.feet + (t.layerOffset layer).2)) := by
  unfold layerSupport at h
  rw [hon, if_neg (by decide)] at h
  generalize t.layerOffset layer = offset at h ⊢
  obtain ⟨dx, dy⟩ := offset
  obtain ⟨l, hl, h⟩ := checked_bind_ok h
  obtain ⟨r, hr, h⟩ := checked_bind_ok h
  obtain ⟨u, hu, h⟩ := checked_bind_ok h
  obtain ⟨f, hf, h⟩ := checked_bind_ok h
  obtain ⟨rfl, -⟩ := int32_eq_ok hl
  obtain ⟨rfl, -⟩ := int32_eq_ok hr
  obtain ⟨rfl, hlow, -⟩ := int32_eq_ok hu
  obtain ⟨rfl, -⟩ := int32_eq_ok hf
  obtain ⟨clear, hclear, h⟩ := checked_bind_ok h
  obtain ⟨r, hr, hall⟩ : ∃ r, t.bodyClear layer (body.left + dx) (body.right - 1 + dx)
    (body.top + dy) (body.feet + dy) water =
      .ok r ∧ (r = true ↔
        t.BodyPassable layer (body.left + dx) (body.right - 1 + dx) (body.top + dy)
          (body.feet + dy) water) :=
    t.bodyClear_exact layer water (.inl (by omega)) hlow
  cases hclear.symm.trans hr
  cases clear with
  | false => cases h
  | true =>
    refine ⟨fun x y hin => ?_, fun hsupport => ?_⟩
    · unfold Box.Has at hin
      exact hall.mp rfl (x + dx) (y + dy) (by omega) (by omega) (by omega) (by omega)
    · obtain ⟨first, hfirst, h⟩ := checked_bind_ok h
      cases first with
      | false =>
        cases h
        cases hsupport
      | true =>
        obtain ⟨second, hsecond, h⟩ := checked_bind_ok h
        cases h
        rw [hsupport] at hsecond
        exact ⟨footing_floor hfirst, footing_floor hsecond⟩

/-- A layer that was not looked at supports nothing. -/
theorem layerSupport_enabled {body : Box} {water : Bool} {layer : Nat}
    (h : t.layerSupport body.left (body.right - 1) body.top body.feet water layer =
      .ok (some true)) : t.enabled layer = true := by
  unfold layerSupport at h
  cases hon : t.enabled layer with
  | true => rfl
  | false =>
    rw [hon] at h
    cases h

theorem pose_half (returning : CoopPlayer) : 0 < (pose returning).2.2 := by
  unfold pose
  dsimp only
  split <;> decide

theorem bodyBox_wide (returning anchor : CoopPlayer) (center : Int) :
    (bodyBox returning anchor center).left < (bodyBox returning anchor center).right := by
  have hhalf := pose_half returning
  unfold bodyBox
  generalize pose returning = pose at hhalf ⊢
  obtain ⟨height, clearance, half⟩ := pose
  dsimp only at hhalf ⊢
  omega

/-- The checks of `safe_at`, on the body's box. -/
structure Checks (t : CoopTerrain) (returning anchor : CoopPlayer) (body : Box) : Prop where
  fits : 0 ≤ body.left ∧ 0 ≤ body.top
  support : ∃ support0 support1 platform,
    t.layerSupport body.left (body.right - 1) body.top body.feet anchor.swimming 0 =
      .ok (some support0) ∧
    t.layerSupport body.left (body.right - 1) body.top body.feet anchor.swimming 1 =
      .ok (some support1) ∧
    anyOk (fun i => t.platformFooting i body.left (body.right - 1) body.feet) (List.range 12) =
      .ok platform ∧
    (support0 = true ∨ support1 = true ∨ platform = true ∨ anchor.swimming = true)
  sprites :
    allOk (t.clearOfSprite body.left (body.right - 1) body.top body.feet) (List.range 12) = .ok true
  extended :
    (List.range 10).all (t.clearOfExtended body.left (body.right - 1) body.top body.feet) = true
  players : ∀ session, t.session = some session →
    allOk (clearOfPlayer returning body.left (body.right - 1) body.top body.feet)
      session.players = .ok true

theorem clearOfSprites_parts {left right top feet : Int}
    (h : t.clearOfSprites left right top feet = .ok true) :
    allOk (t.clearOfSprite left right top feet) (List.range 12) = .ok true ∧
    (List.range 10).all (t.clearOfExtended left right top feet) = true := by
  obtain ⟨sprites, hsprites, h⟩ := checked_bind_ok h
  cases sprites with
  | false => cases h
  | true => exact ⟨hsprites, Except.ok.inj h⟩

theorem safeAt_checks {returning anchor : CoopPlayer} {center x y : Int}
    (h : t.safeAt returning anchor center = .ok (some (x, y))) :
    x = center ∧ y = anchor.y.toInt + anchor.height.toInt.tdiv 2 - (pose returning).1.tdiv 2 ∧
      t.Checks returning anchor (bodyBox returning anchor center) := by
  unfold safeAt at h
  unfold bodyBox
  generalize pose returning = pose at h ⊢
  obtain ⟨height, clearance, half⟩ := pose
  dsimp only at h ⊢
  obtain ⟨feet, hfeet, h⟩ := checked_bind_ok h
  obtain ⟨left, hleft, h⟩ := checked_bind_ok h
  obtain ⟨right, hright, h⟩ := checked_bind_ok h
  obtain ⟨right', hright', h⟩ := checked_bind_ok h
  rw [← (int32_eq_ok hfeet).1, ← (int32_eq_ok hleft).1, ← (int32_eq_ok hright).1]
  rw [(int32_eq_ok hright').1] at h
  obtain ⟨-, h⟩ | ⟨hfits, h⟩ := checked_ite_ok h
  · cases h
  · obtain ⟨first, hfirst, h⟩ := checked_bind_ok h
    cases first with
    | none => cases h
    | some support0 =>
      obtain ⟨second, hsecond, h⟩ := checked_bind_ok h
      cases second with
      | none => cases h
      | some support1 =>
        obtain ⟨platform, hplatform, h⟩ := checked_bind_ok h
        obtain ⟨-, h⟩ | ⟨hsupport, h⟩ := checked_ite_ok h
        · cases h
        · obtain ⟨sprites, hsprites, h⟩ := checked_bind_ok h
          cases sprites with
          | false => cases h
          | true =>
            obtain ⟨players, hplayers, h⟩ := checked_bind_ok h
            cases players with
            | false => cases h
            | true =>
              cases h
              refine ⟨rfl, rfl, ⟨Int.not_lt.mp (not_or.mp hfits).1, ?_⟩,
                ⟨support0, support1, platform, hfirst, hsecond, hplatform, ?_⟩,
                (clearOfSprites_parts hsprites).1, (clearOfSprites_parts hsprites).2,
                fun session hsession => ?_⟩
              · dsimp only
                omega
              · cases support0 <;> cases support1 <;> cases platform <;> simp at hsupport ⊢
                exact hsupport
              · rw [hsession] at hplayers
                exact hplayers

theorem Checks.accepted {returning anchor : CoopPlayer} {x y : Int}
    (h : t.Checks returning anchor (bodyBox returning anchor x))
    (hlevel : y = anchor.y.toInt + anchor.height.toInt.tdiv 2 - (pose returning).1.tdiv 2) :
    t.Accepted returning anchor x y := by
  have hwide := bodyBox_wide returning anchor x
  obtain ⟨support0, support1, platform, hfirst, hsecond, hplatform, hsupport⟩ := h.support
  refine ⟨fun layer hlayer hon => ?_, ?_, fun i hi hlive hridden hplatform => ?_,
    fun i hi hlive => ?_, fun session hsession p hmem hother hplaying => ?_, by omega⟩
  · obtain rfl | rfl : layer = 0 ∨ layer = 1 := by omega
    · exact (layerSupport_some hwide hfirst hon).1
    · exact (layerSupport_some hwide hsecond hon).1
  · obtain rfl | rfl | rfl | hwater := hsupport
    · have hon := layerSupport_enabled hfirst
      exact .inl ⟨0, by omega, hon, (layerSupport_some hwide hfirst hon).2 rfl⟩
    · have hon := layerSupport_enabled hsecond
      exact .inl ⟨1, by omega, hon, (layerSupport_some hwide hsecond hon).2 rfl⟩
    · obtain ⟨i, hi, hon⟩ := anyOk_true hplatform
      exact .inr (.inl ⟨i, List.mem_range.mp hi, platformFooting_onPlatform hon⟩)
    · exact .inr (.inr hwater)
  · exact clearOfSprite_apart (allOk_true h.sprites i (List.mem_range.mpr hi)) hlive
      hridden hplatform
  · exact clearOfExtended_apart (List.all_eq_true.mp h.extended i (List.mem_range.mpr hi)) hlive
  · exact clearOfPlayer_apart (allOk_true (h.players session hsession) p hmem) hother hplaying

theorem firstSafe_some {returning anchor : CoopPlayer} {x y : Int} : ∀ {ds : List Int},
    t.firstSafe returning anchor ds = .ok (some (x, y)) →
      ∃ d ∈ ds, t.safeAt returning anchor (anchor.x.toInt + d) = .ok (some (x, y))
  | [], h => by cases h
  | d :: ds, h => by
    obtain ⟨center, hcenter, h⟩ := checked_bind_ok h
    obtain ⟨rfl, -⟩ := int32_eq_ok hcenter
    obtain ⟨place, hplace, h⟩ := checked_bind_ok h
    cases place with
    | none =>
      obtain ⟨d', hmem, hd'⟩ := firstSafe_some h
      exact ⟨d', List.mem_cons_of_mem d hmem, hd'⟩
    | some place =>
      cases h
      exact ⟨d, List.mem_cons_self, hplace⟩

/-- What `coop_terrain_safe` answers with was checked at one of the offsets. -/
theorem safe_checks {returning anchor : CoopPlayer} {x y : Int}
    (h : t.safe returning anchor = .ok (some (x, y))) :
    (∃ d ∈ offsets, x = anchor.x.toInt + d) ∧ y = anchor.y.toInt + anchor.height.toInt.tdiv 2 -
      (pose returning).1.tdiv 2 ∧
      t.Checks returning anchor (bodyBox returning anchor x) := by
  unfold safe at h
  obtain ⟨-, h⟩ | ⟨-, h⟩ := checked_ite_ok h
  · cases h
  · obtain ⟨d, hmem, hcenter⟩ := firstSafe_some h
    obtain ⟨rfl, hy, hchecks⟩ := safeAt_checks hcenter
    exact ⟨⟨d, hmem, rfl⟩, hy, hchecks⟩

/-- What `coop_terrain_safe` accepts is safe. -/
theorem safe_accepted (t : CoopTerrain) (returning anchor : CoopPlayer) (x y : Int)
    (h : t.safe returning anchor = .ok (some (x, y))) : t.Accepted returning anchor x y := by
  obtain ⟨-, hy, hchecks⟩ := safe_checks h
  exact hchecks.accepted hy

def tallAnchor : CoopPlayer :=
  { (default : CoopPlayer) with
    id := 1, life := .is .playing, x := 100, y := 147, height := 26, mount := COOP_NO_ENTITY }

def smallBubble : CoopPlayer :=
  { (default : CoopPlayer) with
    id := 2, life := .is .deathBubble, power := .is .small, mount := COOP_NO_ENTITY }

/-- A small player returns beside a tall one, on the floor of the open room. -/
theorem safe_accepted_openRoom : openRoom.safe smallBubble tallAnchor = .ok (some (124, 154)) ∧
    openRoom.Accepted smallBubble tallAnchor 124 154 := by
  have hsafe : openRoom.safe smallBubble tallAnchor = .ok (some (124, 154)) := by decide +kernel
  exact ⟨hsafe, safe_accepted openRoom smallBubble tallAnchor 124 154 hsafe⟩

end CoopTerrain

end SmwRecomp.Coop
