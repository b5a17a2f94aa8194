import SmwRecomp.Coop.Reach

/-!
# The camera and a group that fits

* `BoundingBox` — the exact extent of the players in play; `boundingBox_foldl`: the loop of
  `coop_camera_frame` computes it.
* `halve_spec`, `toInt_centre`, `clamp64_spec` — the arithmetic on the way back to `int32_t`.
* `frameGroup_spec` — where the frame goes.
* `frame_contains` — a group that fits, in a room that holds it, lies in the frame.
* `camera_never_strands` — the call, and the separation check behind it.
-/

set_option autoImplicit false

namespace SmwRecomp.Coop

/-! ## The extent of the group -/

/-- The box around the players in play, touched on every side. -/
structure BoundingBox (ps : List CoopPlayer) (b : Extent) : Prop where
  around : ∀ p ∈ ps, p.life = .is .playing →
    b.left ≤ p.left ∧ p.right ≤ b.right ∧ b.top ≤ p.top ∧ p.bottom ≤ b.bottom
  left : ∃ p ∈ ps, p.life = .is .playing ∧ p.left = b.left
  right : ∃ p ∈ ps, p.life = .is .playing ∧ p.right = b.right
  top : ∃ p ∈ ps, p.life = .is .playing ∧ p.top = b.top
  bottom : ∃ p ∈ ps, p.life = .is .playing ∧ p.bottom = b.bottom

/-- The running least of one side over the players seen, from `start`. -/
def LeastSide (f : CoopPlayer → Int) (start : Int) (seen : List CoopPlayer) (m : Int) : Prop :=
  (∀ p ∈ seen, p.life = .is .playing → m ≤ f p) ∧
    (m = start ∨ ∃ p ∈ seen, p.life = .is .playing ∧ f p = m)

section Extent

variable {f : CoopPlayer → Int} {start m : Int} {seen ps : List CoopPlayer} {p : CoopPlayer}

theorem LeastSide.skip (h : LeastSide f start seen m) (hp : p.life ≠ .is .playing) :
    LeastSide f start (seen ++ [p]) m := by
  constructor
  · intro q hq hlife
    rcases List.mem_append.1 hq with hq | hq
    · exact h.1 q hq hlife
    · rw [List.mem_singleton.1 hq] at hlife
      exact absurd hlife hp
  · rcases h.2 with h | ⟨q, hq, hrest⟩
    · exact Or.inl h
    · exact Or.inr ⟨q, List.mem_append_left _ hq, hrest⟩

theorem LeastSide.take (h : LeastSide f start seen m) (hp : p.life = .is .playing) :
    LeastSide f start (seen ++ [p]) (if f p < m then f p else m) := by
  have hlast : p ∈ seen ++ [p] := List.mem_append_right _ (List.mem_singleton_self p)
  constructor
  · intro q hq hlife
    rcases List.mem_append.1 hq with hq | hq
    · have hm := h.1 q hq hlife
      split
      · omega
      · exact hm
    · rw [List.mem_singleton.1 hq]
      split
      · exact Int.le_refl _
      · omega
  · split
    · exact Or.inr ⟨p, hlast, hp, rfl⟩
    · rcases h.2 with h | ⟨q, hq, hrest⟩
      · exact Or.inl h
      · exact Or.inr ⟨q, List.mem_append_left _ hq, hrest⟩

/-- Somebody in play attains the least, if none of them lies behind the start. -/
theorem LeastSide.attained (h : LeastSide f start seen m) (hstart : ∀ p ∈ seen, f p ≤ start)
    (hplaying : ∃ p ∈ seen, p.life = .is .playing) :
    ∃ p ∈ seen, p.life = .is .playing ∧ f p = m := by
  rcases h.2 with hm | hattained
  · obtain ⟨p, hp, hlife⟩ := hplaying
    have hle := h.1 p hp hlife
    have hge := hstart p hp
    exact ⟨p, hp, hlife, by omega⟩
  · exact hattained

/-- The loop of `coop_camera_frame` over the players seen. -/
structure Spans (seen : List CoopPlayer) (b : Extent) : Prop where
  left : LeastSide CoopPlayer.left INT32_MAX seen b.left
  right : LeastSide (fun p => -p.right) (-INT32_MIN) seen (-b.right)
  top : LeastSide CoopPlayer.top INT32_MAX seen b.top
  bottom : LeastSide (fun p => -p.bottom) (-INT32_MIN) seen (-b.bottom)
  active : (∃ p ∈ seen, p.life = .is .playing) ↔ b.active ≠ 0

/-- The greater of two, as the lesser of their negatives. -/
theorem neg_greater (a b : Int) : -(if a > b then a else b) = if -a < -b then -a else -b := by
  split
  · rw [if_pos (by omega)]
  · rw [if_neg (by omega)]

theorem Spans.step {b : Extent} (h : Spans seen b) (p : CoopPlayer) :
    Spans (seen ++ [p]) (extentStep b p) := by
  unfold extentStep
  by_cases hp : p.life = .is .playing
  · rw [if_neg (by simp [hp])]
    refine ⟨h.left.take hp, ?_, h.top.take hp, ?_, ?_⟩
    · dsimp only
      rw [neg_greater]
      exact h.right.take hp
    · dsimp only
      rw [neg_greater]
      exact h.bottom.take hp
    · exact ⟨fun _ => Nat.succ_ne_zero _,
        fun _ => ⟨p, List.mem_append_right _ (List.mem_singleton_self p), hp⟩⟩
  · rw [if_pos hp]
    refine ⟨h.left.skip hp, h.right.skip hp, h.top.skip hp, h.bottom.skip hp, ?_⟩
    rw [← h.active]
    constructor
    · rintro ⟨q, hq, hlife⟩
      rcases List.mem_append.1 hq with hq | hq
      · exact ⟨q, hq, hlife⟩
      · rw [List.mem_singleton.1 hq] at hlife
        exact absurd hlife hp
    · rintro ⟨q, hq, hlife⟩
      exact ⟨q, List.mem_append_left _ hq, hlife⟩

theorem Spans.foldl (ps : List CoopPlayer) : ∀ {seen : List CoopPlayer} {b : Extent}, Spans seen b →
    Spans (seen ++ ps) (ps.foldl extentStep b) := by
  induction ps with
  | nil =>
      intro seen b h
      rw [List.append_nil]
      exact h
  | cons p ps ih =>
      intro seen b h
      have hrest := ih (h.step p)
      rw [List.append_assoc, List.singleton_append] at hrest
      exact hrest

/-- The box that the loop of `coop_camera_frame` starts with. -/
def noExtent : Extent := ⟨INT32_MAX, INT32_MIN, INT32_MAX, INT32_MIN, 0⟩

theorem spans_noExtent : Spans [] noExtent := by
  refine ⟨⟨?_, Or.inl rfl⟩, ⟨?_, Or.inl rfl⟩, ⟨?_, Or.inl rfl⟩,
    ⟨?_, Or.inl rfl⟩, by simp [noExtent]⟩
  all_goals exact fun _ hp => nomatch hp

/-- A valid body reaches to both sides of its position, and not far. -/
theorem ValidBody.sides (h : ValidBody p) : p.left < p.x.toInt ∧ p.x.toInt < p.right ∧
    p.top ≤ p.y.toInt ∧
    p.y.toInt ≤ p.bottom ∧ p.x.toInt - p.left = p.right - p.x.toInt ∧
    p.y.toInt - p.top = p.bottom - p.y.toInt := by
  have hwidth := Int32.le_iff_toInt_le.1 h.halfWidth.1
  have hheight := Int32.le_iff_toInt_le.1 h.height.1
  have hone : (1 : Int32).toInt = 1 := rfl
  rw [hone] at hwidth hheight
  have hhalf : 0 ≤ p.height.toInt.tdiv 2 := Int.tdiv_nonneg (by omega) (by omega)
  unfold CoopPlayer.left CoopPlayer.right CoopPlayer.top CoopPlayer.bottom
  omega

theorem boundingBox_foldl (hbodies : ∀ p ∈ ps, ValidBody p)
    (hplaying : ∃ p ∈ ps, p.life = .is .playing) :
    BoundingBox ps (ps.foldl extentStep noExtent) ∧ (ps.foldl extentStep noExtent).active ≠ 0 := by
  have h := Spans.foldl ps spans_noExtent
  rw [List.nil_append] at h
  have hmax : INT32_MAX = 2 ^ 31 - 1 := rfl
  have hmin : INT32_MIN = -2 ^ 31 := rfl
  have hrange : ∀ p ∈ ps, p.left ≤ INT32_MAX ∧ -p.right ≤ -INT32_MIN ∧ p.top ≤ INT32_MAX ∧
      -p.bottom ≤ -INT32_MIN := by
    intro p hp
    obtain ⟨hleft, hright, htop, hbottom, -⟩ := (hbodies p hp).sides
    have hx := p.x.toInt_lt
    have hx' := p.x.le_toInt
    have hy := p.y.toInt_lt
    have hy' := p.y.le_toInt
    omega
  refine ⟨⟨?_, ?_, ?_, ?_, ?_⟩, h.active.1 hplaying⟩
  · intro p hp hlife
    have hleft := h.left.1 p hp hlife
    have hright := h.right.1 p hp hlife
    have htop := h.top.1 p hp hlife
    have hbottom := h.bottom.1 p hp hlife
    dsimp only at hright hbottom
    omega
  · exact h.left.attained (fun p hp => (hrange p hp).1) hplaying
  · obtain ⟨p, hp, hlife, heq⟩ := h.right.attained (fun p hp => (hrange p hp).2.1) hplaying
    exact ⟨p, hp, hlife, Int.neg_inj.1 heq⟩
  · exact h.top.attained (fun p hp => (hrange p hp).2.2.1) hplaying
  · obtain ⟨p, hp, hlife, heq⟩ := h.bottom.attained (fun p hp => (hrange p hp).2.2.2) hplaying
    exact ⟨p, hp, hlife, Int.neg_inj.1 heq⟩

end Extent

/-! ## Conversions -/

/-- Halving as C does it. -/
theorem halve_spec (a : Int) : 2 * a.tdiv 2 = a ∨ (0 < a ∧ 2 * a.tdiv 2 = a - 1) ∨
    (a < 0 ∧ 2 * a.tdiv 2 = a + 1) := by
  have hdiv := Int.mul_tdiv_add_tmod a 2
  have hlo := Int.lt_tmod_of_pos a (show (0 : Int) < 2 by omega)
  have hhi := Int.tmod_lt_of_pos a (show (0 : Int) < 2 by omega)
  by_cases hneg : a < 0
  · have hsign := Int.tmod_nonneg 2 (show 0 ≤ -a by omega)
    rw [Int.neg_tmod] at hsign
    omega
  · have hsign := Int.tmod_nonneg 2 (show 0 ≤ a by omega)
    omega

/-- `clamp64` into a nonempty interval loses nothing. -/
theorem clamp64_spec (n : Int) {lo hi : Int32} (h : lo.toInt ≤ hi.toInt) :
    (clamp64 n lo hi).toInt = max lo.toInt (min n hi.toInt) := by
  have hlo := lo.le_toInt
  have hhi := hi.toInt_lt
  unfold clamp64
  split
  · omega
  · split
    · omega
    · rw [Int32.toInt_ofInt_of_le (by omega) (by omega)]
      omega

/-- The way back to `int32_t` loses nothing of the centre, which lies between two players. -/
theorem BoundingBox.centre {ps : List CoopPlayer} {b : Extent} (h : BoundingBox ps b)
    (hbodies : ∀ p ∈ ps, ValidBody p) :
    ((Int32.ofInt ((b.left + b.right).tdiv 2)).toInt = (b.left + b.right).tdiv 2 ∧
      (Int32.ofInt ((b.top + b.bottom).tdiv 2)).toInt = (b.top + b.bottom).tdiv 2) ∧
    ((∃ p ∈ ps, p.life = .is .playing ∧ p.x.toInt ≤ (b.left + b.right).tdiv 2) ∧
      (∃ p ∈ ps, p.life = .is .playing ∧ (b.left + b.right).tdiv 2 ≤ p.x.toInt)) ∧
    ((∃ p ∈ ps, p.life = .is .playing ∧ p.y.toInt ≤ (b.top + b.bottom).tdiv 2) ∧
      (∃ p ∈ ps, p.life = .is .playing ∧ (b.top + b.bottom).tdiv 2 ≤ p.y.toInt)) := by
  obtain ⟨l, hl, hlife, hleft⟩ := h.left
  obtain ⟨r, hr, hrlife, hright⟩ := h.right
  obtain ⟨u, hu, hulife, htop⟩ := h.top
  obtain ⟨d, hd, hdlife, hbottom⟩ := h.bottom
  have hlr := h.around r hr hrlife
  have hrl := h.around l hl hlife
  have hdu := h.around u hu hulife
  have hud := h.around d hd hdlife
  have hsides := (hbodies l hl).sides
  have hbeyond := (hbodies r hr).sides
  have habove := (hbodies u hu).sides
  have hbelow := (hbodies d hd).sides
  have hx := halve_spec (b.left + b.right)
  have hy := halve_spec (b.top + b.bottom)
  -- each box is symmetric about its position, so the leftmost and the rightmost players enclose the
  -- centre
  have hlow : l.x.toInt ≤ (b.left + b.right).tdiv 2 := by omega
  have hhigh : (b.left + b.right).tdiv 2 ≤ r.x.toInt := by omega
  have hlow' : u.y.toInt ≤ (b.top + b.bottom).tdiv 2 := by omega
  have hhigh' : (b.top + b.bottom).tdiv 2 ≤ d.y.toInt := by omega
  have hmin := l.x.le_toInt
  have hmax := r.x.toInt_lt
  have hmin' := u.y.le_toInt
  have hmax' := d.y.toInt_lt
  refine ⟨⟨Int32.toInt_ofInt_of_le ?_ ?_, Int32.toInt_ofInt_of_le ?_ ?_⟩,
    ⟨⟨l, hl, hlife, hlow⟩, r, hr, hrlife, hhigh⟩, ⟨u, hu, hulife, hlow'⟩, d, hd, hdlife, hhigh'⟩
  · omega
  · omega
  · omega
  · omega

/-! ## The frame -/

/-- The group's extent fits within the view less 32 pixels. -/
def Fits (b : Extent) (w h : Int32) : Prop :=
  b.right - b.left ≤ w.toInt - 32 ∧ b.bottom - b.top ≤ h.toInt - 32

/-- The frame's origin on one axis, for a focus there, without wrap-around. -/
def origin (focus view room : Int) : Int := max 0 (min (focus - view.tdiv 2) (max 0 (room - view)))

section Frame

variable {s : CoopSession} {box : Extent}

theorem leaderStep_playing (horizontal : Bool) (travel : Int32) (ps : List CoopPlayer) :
    ∀ best : Option CoopPlayer × Int, (∀ p, best.1 = some p → p.life = .is .playing) →
      (best.1.isSome = true ∨ ∃ p ∈ ps, p.life = .is .playing) →
      ∃ p, (ps.foldl (leaderStep s horizontal travel) best).1 = some p ∧ p.life = .is .playing := by
  induction ps with
  | nil =>
      intro best hbest hsome
      rcases hsome with hsome | ⟨p, hp, -⟩
      · obtain ⟨p, hp⟩ := Option.isSome_iff_exists.1 hsome
        exact ⟨p, hp, hbest p hp⟩
      · cases hp
  | cons q ps ih =>
      intro best hbest hsome
      rw [List.foldl_cons]
      apply ih
      · intro p hp
        unfold leaderStep at hp
        split at hp
        · exact hbest p hp
        · rename_i hlife
          extract_lets progress at hp
          split at hp
          · cases hp
            exact not_not.1 hlife
          · split at hp
            · cases hp
              exact not_not.1 hlife
            · exact hbest p hp
      · unfold leaderStep
        by_cases hlife : q.life = .is .playing
        · left
          rw [if_neg (by simp [hlife])]
          extract_lets progress
          split
          · rfl
          · rename_i hleader
            split
            · rfl
            · rw [hleader]
              rfl
        · rw [if_pos hlife]
          rcases hsome with hsome | ⟨p, hp, hplife⟩
          · exact Or.inl hsome
          · rcases List.mem_cons.1 hp with rfl | hp
            · exact absurd hplife hlife
            · exact Or.inr ⟨p, hp, hplife⟩

/-- Half of a view, and what a room has beyond a view. -/
theorem view_arithmetic {w : Int32} (rw : Int32) (hw : 32 ≤ w) : (w - 32).toInt = w.toInt - 32 ∧
    (w / 2).toInt = w.toInt.tdiv 2 ∧
    (if rw > w then rw - w else 0).toInt = max 0 (rw.toInt - w.toInt) := by
  have hw' := Int32.le_iff_toInt_le.1 hw
  have hthirty : (32 : Int32).toInt = 32 := rfl
  have hzero : (0 : Int32).toInt = 0 := rfl
  refine ⟨?_, ?_, ?_⟩
  · exact Int32.toInt_sub_of_le w 32 (by decide) hw
  · exact Int32.toInt_div_of_ne_right w 2 (by decide)
  · split
    · rename_i hlt
      have hlt := Int32.lt_iff_toInt_lt.1 hlt
      have hpos : (0 : Int32) ≤ w := Int32.le_iff_toInt_le.2 (by omega)
      rw [Int32.toInt_sub_of_le rw w hpos (Int32.le_iff_toInt_le.2 (Int.le_of_lt hlt))]
      omega
    · rename_i hge
      have hge : rw.toInt ≤ w.toInt := by
        rw [gt_iff_lt, Int32.lt_iff_toInt_lt] at hge
        omega
      omega

/-- Where `coop_camera_frame` puts the camera: at the centre of a group that fits, else at its
leader. -/
structure Focused (ps : List CoopPlayer) (w h rw rh : Int32) (autoscroll : Bool) (box : Extent)
    (c : CoopCamera) :
    Prop where
  centreX : c.previousCenterX.toInt = (box.left + box.right).tdiv 2
  centreY : c.previousCenterY.toInt = (box.top + box.bottom).tdiv 2
  placed : ∃ fx fy : Int, (autoscroll = false →
      c.x.toInt = origin fx w.toInt rw.toInt ∧ c.y.toInt = origin fy h.toInt rh.toInt) ∧
    (Fits box w h ∧ c.leader = COOP_NO_PLAYER ∧
        fx = (box.left + box.right).tdiv 2 ∧ fy = (box.top + box.bottom).tdiv 2 ∨
      ¬ Fits box w h ∧
        ∃ p ∈ ps, p.life = .is .playing ∧ c.leader = p.id ∧ fx = p.x.toInt ∧ fy = p.y.toInt)

/-- The camera's direction of travel, before the leader is sought. -/
def travelled (c : CoopCamera) (box : Extent) : CoopCamera :=
  let cx := Int32.ofInt ((box.left + box.right).tdiv 2)
  let cy := Int32.ofInt ((box.top + box.bottom).tdiv 2)
  let c' := if c.initialized ∧ box.right - box.left ≤ (c.width - 32).toInt ∧ box.bottom - box.top ≤
    (c.height - 32).toInt then
      { c with
        travelX := travelSign (cx.toInt - c.previousCenterX.toInt) c.travelX
        travelY := travelSign (cy.toInt - c.previousCenterY.toInt) c.travelY }
    else c
  { c' with previousCenterX := cx, previousCenterY := cy, initialized := true }

/-- Whom the camera is on, and where. -/
def focusOf (s : CoopSession) (box : Extent) : CoopPlayerId × Int32 × Int32 :=
  let c := travelled s.camera box
  let cx := Int32.ofInt ((box.left + box.right).tdiv 2)
  let cy := Int32.ofInt ((box.top + box.bottom).tdiv 2)
  let horizontal :=
    decide (box.right - box.left - (c.width - 32).toInt ≥ box.bottom - box.top -
    (c.height - 32).toInt)
  let leader :=
    (s.players.foldl (leaderStep s horizontal (if horizontal then c.travelX else c.travelY))
    (none, INT64_MIN)).1
  if box.right - box.left ≤ (s.camera.width - 32).toInt ∧ box.bottom - box.top ≤
    (s.camera.height - 32).toInt then
    (COOP_NO_PLAYER, cx, cy)
  else
    match leader with
    | some p => (p.id, p.x, p.y)
    | none => (COOP_NO_PLAYER, cx, cy)

/-- The camera on a focus, as far as the room lets it. -/
def placedOn (c : CoopCamera) (focus : CoopPlayerId × Int32 × Int32) : CoopCamera :=
  let c := { c with leader := focus.1 }
  if c.autoscroll then c
  else { c with
    x := clamp64 (focus.2.1.toInt - (c.width / 2).toInt) 0
      (if c.roomWidth > c.width then c.roomWidth - c.width else 0)
    y := clamp64 (focus.2.2.toInt - (c.height / 2).toInt) 0
      (if c.roomHeight > c.height then c.roomHeight - c.height else 0) }

theorem frameGroup_camera (s : CoopSession) (box : Extent) :
    (frameGroup s box).camera = placedOn (travelled s.camera box) (focusOf s box) := rfl

theorem travelled_frame (c : CoopCamera) (box : Extent) :
    (travelled c box).width = c.width ∧ (travelled c box).height = c.height ∧
      (travelled c box).roomWidth = c.roomWidth ∧ (travelled c box).roomHeight = c.roomHeight ∧
      (travelled c box).autoscroll = c.autoscroll := by
  unfold travelled
  dsimp only
  split <;> exact ⟨rfl, rfl, rfl, rfl, rfl⟩

theorem placedOn_frame (c : CoopCamera) (focus : CoopPlayerId × Int32 × Int32) :
    (placedOn c focus).width = c.width ∧ (placedOn c focus).height = c.height ∧
      (placedOn c focus).autoscroll = c.autoscroll ∧ (placedOn c focus).leader = focus.1 ∧
      (placedOn c focus).previousCenterX = c.previousCenterX ∧ (placedOn c focus).previousCenterY =
        c.previousCenterY := by
  unfold placedOn
  dsimp only
  split <;> exact ⟨rfl, rfl, rfl, rfl, rfl, rfl⟩

theorem frameGroup_size (s : CoopSession) (box : Extent) :
    (frameGroup s box).camera.width = s.camera.width ∧ (frameGroup s box).camera.height =
      s.camera.height ∧
      (frameGroup s box).camera.autoscroll = s.camera.autoscroll := by
  obtain ⟨hwidth, hheight, hauto, -⟩ := placedOn_frame (travelled s.camera box) (focusOf s box)
  obtain ⟨hwidth', hheight', -, -, hauto'⟩ := travelled_frame s.camera box
  rw [frameGroup_camera]
  exact ⟨hwidth.trans hwidth', hheight.trans hheight', hauto.trans hauto'⟩

/-- A camera that scrolls by itself is left where it is; another one goes to the focus. -/
theorem placedOn_origin {c : CoopCamera} (focus : CoopPlayerId × Int32 × Int32)
    (hstill : c.autoscroll = false)
    (hw : 32 ≤ c.width) (hh : 32 ≤ c.height) :
    (placedOn c focus).x.toInt = origin focus.2.1.toInt c.width.toInt c.roomWidth.toInt ∧
      (placedOn c focus).y.toInt = origin focus.2.2.toInt c.height.toInt c.roomHeight.toInt := by
  obtain ⟨-, hhalf, hslack⟩ := view_arithmetic c.roomWidth hw
  obtain ⟨-, hhalf', hslack'⟩ := view_arithmetic c.roomHeight hh
  have hzero : (0 : Int32).toInt = 0 := rfl
  unfold placedOn
  rw [if_neg (by simp [hstill])]
  dsimp only
  unfold origin
  rw [clamp64_spec, clamp64_spec, hhalf, hhalf', hslack, hslack', hzero]
  · exact ⟨rfl, rfl⟩
  · rw [hslack', hzero]
    omega
  · rw [hslack, hzero]
    omega

/-- The focus is the centre of a group that fits, and else a player in play. -/
theorem focusOf_spec (hbox : BoundingBox s.players box) (hw : 32 ≤ s.camera.width)
    (hh : 32 ≤ s.camera.height) :
    Fits box s.camera.width s.camera.height ∧ focusOf s box =
        (COOP_NO_PLAYER, Int32.ofInt ((box.left + box.right).tdiv 2),
          Int32.ofInt ((box.top + box.bottom).tdiv 2)) ∨
      ¬ Fits box s.camera.width s.camera.height ∧
        ∃ p ∈ s.players, p.life = .is .playing ∧ focusOf s box = (p.id, p.x, p.y) := by
  obtain ⟨hmargin, -, -⟩ := view_arithmetic s.camera.roomWidth hw
  obtain ⟨hmargin', -, -⟩ := view_arithmetic s.camera.roomHeight hh
  unfold focusOf Fits
  extract_lets c cx cy horizontal leader
  rw [hmargin, hmargin']
  by_cases hfit : box.right - box.left ≤ s.camera.width.toInt - 32 ∧ box.bottom - box.top ≤
    s.camera.height.toInt - 32
  · rw [if_pos hfit]
    exact Or.inl ⟨hfit, rfl⟩
  · rw [if_neg hfit]
    right
    obtain ⟨l, hl, hllife, -⟩ := hbox.left
    obtain ⟨p, hp, hlife⟩ :=
      leaderStep_playing (s := s) horizontal (if horizontal then c.travelX else c.travelY) s.players
      (none, INT64_MIN) (fun _ h => absurd h.symm (Option.some_ne_none _)) (Or.inr ⟨l, hl, hllife⟩)
    have hmem :=
      leader_mem horizontal (if horizontal then c.travelX else c.travelY) s.players
      (none, INT64_MIN) s.players
      (fun _ hp => hp) (fun _ h => absurd h.symm (Option.some_ne_none _)) p hp
    have hfirst : leader = some p := hp
    rw [hfirst]
    exact ⟨hfit, p, hmem, hlife, rfl⟩

theorem focused_frameGroup (hbox : BoundingBox s.players box)
    (hbodies : ∀ p ∈ s.players, ValidBody p)
    (hframe : 32 ≤ s.camera.width ∧ 32 ≤ s.camera.height ∧ 1 ≤ s.camera.roomWidth ∧
      1 ≤ s.camera.roomHeight) :
    Focused s.players s.camera.width s.camera.height s.camera.roomWidth s.camera.roomHeight
      s.camera.autoscroll box
      (frameGroup s box).camera := by
  obtain ⟨hw, hh, -, -⟩ := hframe
  obtain ⟨⟨hcx, hcy⟩, -⟩ := hbox.centre hbodies
  obtain ⟨hwidth, hheight, hroomWidth, hroomHeight, hauto⟩ := travelled_frame s.camera box
  obtain ⟨-, -, -, hleader, hpx, hpy⟩ := placedOn_frame (travelled s.camera box) (focusOf s box)
  rw [frameGroup_camera]
  refine ⟨?_, ?_, (focusOf s box).2.1.toInt, (focusOf s box).2.2.toInt, fun hstill => ?_, ?_⟩
  · rw [hpx]
    exact hcx
  · rw [hpy]
    exact hcy
  · have horigin :=
      placedOn_origin (focusOf s box) (hauto.trans hstill) (by rw [hwidth]; exact hw)
      (by rw [hheight]; exact hh)
    rw [hwidth, hheight, hroomWidth, hroomHeight] at horigin
    exact horigin
  · rw [hleader]
    obtain ⟨hfit, hfocus⟩ | ⟨hfit, p, hp, hlife, hfocus⟩ := focusOf_spec hbox hw hh
    · rw [hfocus]
      exact Or.inl ⟨hfit, rfl, hcx, hcy⟩
    · rw [hfocus]
      exact Or.inr ⟨hfit, p, hp, hlife, rfl, rfl, rfl⟩

/-- A frame at the centre of a group that fits holds the group, on one axis: also where the room's
edge stops it. -/
theorem origin_holds {l r view room : Int} (hview : 32 ≤ view) (hl : 0 ≤ l) (hr : r ≤ room)
    (hfits : r - l ≤ view - 32) :
    0 ≤ origin ((l + r).tdiv 2) view room ∧ origin ((l + r).tdiv 2) view room ≤
      max 0 (room - view) ∧
      origin ((l + r).tdiv 2) view room ≤ l ∧ r ≤ origin ((l + r).tdiv 2) view room + view := by
  have hcentre := halve_spec (l + r)
  have hhalf := halve_spec view
  unfold origin
  generalize (l + r).tdiv 2 = c at hcentre ⊢
  generalize view.tdiv 2 = half at hhalf ⊢
  refine ⟨?_, ?_, ?_, ?_⟩
  · omega
  · omega
  · omega
  · omega

/-- The boxes of the players in play lie in the room. -/
def InRoom (ps : List CoopPlayer) (rw rh : Int32) : Prop :=
  ∀ p ∈ ps, p.life = .is .playing → 0 ≤ p.left ∧ p.right ≤ rw.toInt ∧ 0 ≤ p.top ∧
    p.bottom ≤ rh.toInt

end Frame

/-! ## The call, and the check behind it -/

/-- The record whose separation timer starts over. -/
def rested (p : CoopPlayer) : CoopPlayer := { p with separationTicks := 0 }

/-- What a check does to players that are all inside. -/
def settled (p : CoopPlayer) : CoopPlayer := if p.life = .is .playing then rested p else p

theorem BoundingBox.of_map {f : CoopPlayer → CoopPlayer} {ps : List CoopPlayer} {b : Extent}
    (h : BoundingBox (ps.map f) b) (hlife : ∀ p, (f p).life = p.life)
    (hleft : ∀ p, (f p).left = p.left)
    (hright : ∀ p, (f p).right = p.right) (htop : ∀ p, (f p).top = p.top)
    (hbottom : ∀ p, (f p).bottom = p.bottom) :
    BoundingBox ps b := by
  have hback : ∀ {side : CoopPlayer → Int} {m : Int}, (∀ p, side (f p) = side p) →
      (∃ p ∈ ps.map f, p.life = .is .playing ∧ side p = m) → ∃ p ∈ ps, p.life = .is .playing ∧
      side p = m := by
    rintro side m hside ⟨q, hq, hqlife, heq⟩
    obtain ⟨p, hp, rfl⟩ := List.mem_map.1 hq
    exact ⟨p, hp, (hlife p) ▸ hqlife, (hside p) ▸ heq⟩
  refine ⟨?_, hback hleft h.left, hback hright h.right, hback htop h.top, hback hbottom h.bottom⟩
  intro p hp hplife
  have hsides := h.around (f p) (List.mem_map_of_mem hp) ((hlife p).trans hplife)
  rw [hleft, hright, htop, hbottom] at hsides
  exact hsides

/-- A check over players that are all inside. -/
theorem separationLoop_inside (resized : Bool) (s : CoopSession) (active : Nat)
    (ps : List CoopPlayer)
    (h : ∀ p ∈ ps, p.life = .is .playing → outsideFrame s.camera p = false) :
    separationLoop resized s active ps = (s, ps.map settled) := by
  induction ps with
  | nil => rfl
  | cons p ps ih =>
      rw [List.forall_mem_cons] at h
      unfold separationLoop
      rw [ih h.2, List.map_cons, settled]
      by_cases hlife : p.life = .is .playing
      · have hinside := h.1 hlife
        rw [if_neg (by simp [hlife]), if_pos (by simp [hinside]), if_pos hlife]
        rfl
      · rw [if_pos hlife, if_neg hlife]

theorem outsideFrame_eq_false {c : CoopCamera} {p : CoopPlayer} : outsideFrame c p = false ↔
    c.x.toInt ≤ p.left ∧ p.right ≤ c.x.toInt + c.width.toInt ∧
      c.y.toInt ≤ p.top ∧ p.bottom ≤ c.y.toInt + c.height.toInt := by
  unfold outsideFrame
  simp only [Bool.or_eq_false_iff, decide_eq_false_iff_not, Int.not_lt, gt_iff_lt]
  constructor
  · rintro ⟨⟨⟨hleft, hright⟩, htop⟩, hbottom⟩
    exact ⟨hleft, hright, htop, hbottom⟩
  · rintro ⟨hleft, hright, htop, hbottom⟩
    exact ⟨⟨⟨hleft, hright⟩, htop⟩, hbottom⟩

/-- A group that fits, in a room that holds it: the frame lies in the room and holds the group, and
a check in a running frame finds nobody outside. -/
structure Holds (s t : CoopSession) (w h rw rh : Int32) : Prop where
  originX : 0 ≤ t.camera.x.toInt ∧ t.camera.x.toInt ≤ max 0 (rw.toInt - w.toInt)
  originY : 0 ≤ t.camera.y.toInt ∧ t.camera.y.toInt ≤ max 0 (rh.toInt - h.toInt)
  around : ∀ p ∈ s.players, p.life = .is .playing →
    t.camera.x.toInt ≤ p.left ∧ p.right ≤ t.camera.x.toInt + w.toInt ∧
      t.camera.y.toInt ≤ p.top ∧ p.bottom ≤ t.camera.y.toInt + h.toInt
  check : s.advancing = true → s.outcome = .is .continue → ∀ resized,
    coopCameraCheckSeparation t resized = (true, { t with players := t.players.map settled })

/-- The centre lies between two players on each axis. -/
structure Central (ps : List CoopPlayer) (c : CoopCamera) : Prop where
  right_of : ∃ p ∈ ps, p.life = .is .playing ∧ p.x.toInt ≤ c.previousCenterX.toInt
  left_of : ∃ p ∈ ps, p.life = .is .playing ∧ c.previousCenterX.toInt ≤ p.x.toInt
  below : ∃ p ∈ ps, p.life = .is .playing ∧ p.y.toInt ≤ c.previousCenterY.toInt
  above : ∃ p ∈ ps, p.life = .is .playing ∧ c.previousCenterY.toInt ≤ p.y.toInt

/-- A check of a running frame over players that are all inside. -/
theorem check_inside {s : CoopSession} (hworking : s.failed = false)
    (hadvancing : s.advancing = true)
    (houtcome : s.outcome = .is .continue) (hstill : s.camera.autoscroll = false)
    (hinside : ∀ p ∈ s.players, p.life = .is .playing → outsideFrame s.camera p = false)
    (resized : Bool) :
    coopCameraCheckSeparation s resized = (true, { s with players := s.players.map settled }) := by
  unfold coopCameraCheckSeparation
  rw [if_neg (by simp [hworking]), if_neg (by simp [hadvancing, houtcome, hstill]),
    separationLoop_inside _ _ _ _ hinside]
  simp [hworking]

section Call

variable {s t : CoopSession} {w h rw rh : Int32} {autoscroll : Bool} {box : Extent}

/-- What `coop_camera_frame` leaves: the records, but for the timers, and a camera focused on the
group. -/
structure CameraFramed (s t : CoopSession) (w h rw rh : Int32) (autoscroll : Bool)
    (box : Extent) : Prop where
  players : t.players = s.players ∨ t.players = s.players.map rested
  extent : BoundingBox s.players box
  focused : Focused s.players w h rw rh autoscroll box t.camera
  size : t.camera.width = w ∧ t.camera.height = h ∧ t.camera.autoscroll = autoscroll
  running : t.failed = s.failed ∧ t.advancing = s.advancing ∧ t.outcome = s.outcome

theorem cameraFramed (hworking : s.failed = false) (hw : 32 ≤ w) (hh : 32 ≤ h) (hrw : 1 ≤ rw)
    (hrh : 1 ≤ rh)
    (hbodies : ∀ p ∈ s.players, ValidBody p) (hplaying : ∃ p ∈ s.players, p.life = .is .playing) :
    ∃ t box, coopCameraFrame s w h rw rh autoscroll = (true, t) ∧
    CameraFramed s t w h rw rh autoscroll box := by
  have hsize : ¬ (s.failed = true ∨ w < 32 ∨ h < 32 ∨ rw < 1 ∨ rh < 1) := by
    simp only [hworking, Bool.false_eq_true, false_or, not_or, Int32.not_lt]
    exact ⟨hw, hh, hrw, hrh⟩
  unfold coopCameraFrame
  rw [if_neg hsize]
  extract_lets resized camera s₁ box
  by_cases hresized : resized
  · have hplayers : s₁.players = s.players.map rested := if_pos hresized
    have hbodies₁ : ∀ p ∈ s₁.players, ValidBody p := by
      intro q hq
      rw [hplayers] at hq
      obtain ⟨p, hp, rfl⟩ := List.mem_map.1 hq
      have hb := hbodies p hp
      exact ⟨hb.life, hb.power, hb.reserve, hb.halfWidth, hb.height⟩
    have hplaying₁ : ∃ p ∈ s₁.players, p.life = .is .playing := by
      obtain ⟨p, hp, hlife⟩ := hplaying
      refine ⟨rested p, ?_, hlife⟩
      rw [hplayers]
      exact List.mem_map_of_mem hp
    obtain ⟨hbox₁, hactive⟩ := boundingBox_foldl hbodies₁ hplaying₁
    change BoundingBox s₁.players box at hbox₁
    have hfocused := focused_frameGroup hbox₁ hbodies₁ ⟨hw, hh, hrw, hrh⟩
    have hbox : BoundingBox s.players box := by
      have hbox₁ : BoundingBox (s.players.map rested) box := hplayers ▸ hbox₁
      exact hbox₁.of_map (fun _ => rfl) (fun _ => rfl) (fun _ => rfl) (fun _ => rfl) fun _ => rfl
    rw [if_neg (show ¬ box.active = 0 from hactive)]
    refine ⟨_, box, rfl, Or.inr hplayers, hbox, ⟨hfocused.centreX, hfocused.centreY, ?_⟩,
      frameGroup_size s₁ box, rfl, rfl, rfl⟩
    obtain ⟨fx, fy, hplaced, hfocus⟩ := hfocused.placed
    refine ⟨fx, fy, hplaced, hfocus.imp_right ?_⟩
    rintro ⟨hfit, q, hq, hlife, hleader, hx, hy⟩
    rw [hplayers] at hq
    obtain ⟨p, hp, rfl⟩ := List.mem_map.1 hq
    exact ⟨hfit, p, hp, hlife, hleader, hx, hy⟩
  · have hplayers : s₁.players = s.players := if_neg hresized
    have hbodies₁ : ∀ p ∈ s₁.players, ValidBody p := hplayers.symm ▸ hbodies
    obtain ⟨hbox₁, hactive⟩ := boundingBox_foldl hbodies₁ (hplayers.symm ▸ hplaying)
    change BoundingBox s₁.players box at hbox₁
    have hfocused := focused_frameGroup hbox₁ hbodies₁ ⟨hw, hh, hrw, hrh⟩
    rw [if_neg (show ¬ box.active = 0 from hactive)]
    rw [hplayers] at hbox₁ hfocused
    exact ⟨_, box, rfl, Or.inl hplayers, hbox₁, hfocused, frameGroup_size s₁ box, rfl, rfl, rfl⟩

theorem CameraFramed.central (hframed : CameraFramed s t w h rw rh autoscroll box)
    (hbodies : ∀ p ∈ s.players, ValidBody p) : Central s.players t.camera := by
  obtain ⟨-, ⟨hxl, hxr⟩, hyl, hyr⟩ := hframed.extent.centre hbodies
  rw [← hframed.focused.centreX] at hxl hxr
  rw [← hframed.focused.centreY] at hyl hyr
  exact ⟨hxl, hxr, hyl, hyr⟩

/-- Inside before the frame is inside behind it: the timers take no room. -/
theorem CameraFramed.mem (hframed : CameraFramed s t w h rw rh autoscroll box)
    {P : CoopPlayer → Prop}
    (hrested : ∀ p, P p → P (rested p)) (hall : ∀ p ∈ s.players, P p) : ∀ p ∈ t.players, P p := by
  intro q hq
  rcases hframed.players with hplayers | hplayers
  · rw [hplayers] at hq
    exact hall q hq
  · rw [hplayers] at hq
    obtain ⟨p, hp, rfl⟩ := List.mem_map.1 hq
    exact hrested p (hall p hp)

/-- The geometry of a still camera over a group that fits. -/
theorem CameraFramed.around (hframed : CameraFramed s t w h rw rh false box)
    (hw : 32 ≤ w) (hh : 32 ≤ h)
    (hbodies : ∀ p ∈ s.players, ValidBody p) (hroom : InRoom s.players rw rh)
    (hfits : Fits box w h) :
    (0 ≤ t.camera.x.toInt ∧ t.camera.x.toInt ≤ max 0 (rw.toInt - w.toInt)) ∧
      (0 ≤ t.camera.y.toInt ∧ t.camera.y.toInt ≤ max 0 (rh.toInt - h.toInt)) ∧
      ∀ p ∈ s.players, p.life = .is .playing →
        t.camera.x.toInt ≤ p.left ∧ p.right ≤ t.camera.x.toInt + w.toInt ∧
          t.camera.y.toInt ≤ p.top ∧ p.bottom ≤ t.camera.y.toInt + h.toInt := by
  have hbox := hframed.extent
  obtain ⟨fx, fy, horigin, hfocus⟩ := hframed.focused.placed
  obtain ⟨horiginX, horiginY⟩ := horigin rfl
  rcases hfocus with ⟨-, -, rfl, rfl⟩ | ⟨hunfit, -⟩
  · have hw' := Int32.le_iff_toInt_le.1 hw
    have hh' := Int32.le_iff_toInt_le.1 hh
    have hthirty : (32 : Int32).toInt = 32 := rfl
    rw [hthirty] at hw' hh'
    obtain ⟨l, hl, hllife, hlleft⟩ := hbox.left
    obtain ⟨r, hr, hrlife, hrright⟩ := hbox.right
    obtain ⟨u, hu, hulife, hutop⟩ := hbox.top
    obtain ⟨d, hd, hdlife, hdbottom⟩ := hbox.bottom
    have hroomL := hroom l hl hllife
    have hroomR := hroom r hr hrlife
    have hroomU := hroom u hu hulife
    have hroomD := hroom d hd hdlife
    have hlsides := (hbodies l hl).sides
    have husides := (hbodies u hu).sides
    have hlaround := hbox.around l hl hllife
    have huaround := hbox.around u hu hulife
    have hholdsX := @origin_holds box.left box.right w.toInt rw.toInt hw'
      (by omega) (by omega) hfits.1
    have hholdsY := @origin_holds box.top box.bottom h.toInt rh.toInt hh'
      (by omega) (by omega) hfits.2
    rw [← horiginX] at hholdsX
    rw [← horiginY] at hholdsY
    refine ⟨⟨hholdsX.1, hholdsX.2.1⟩, ⟨hholdsY.1, hholdsY.2.1⟩, ?_⟩
    intro p hp hlife
    have hp := hbox.around p hp hlife
    omega
  · exact absurd hfits hunfit

/-- **The camera never strands a group that fits.**  Whenever somebody is in play, nothing is lost
on the way back to `int32_t` and the centre lies between the players; and a group that fits, in a
room that holds it, is held. -/
theorem camera_never_strands (hworking : s.failed = false) (hw : 32 ≤ w) (hh : 32 ≤ h)
    (hrw : 1 ≤ rw) (hrh : 1 ≤ rh)
    (hbodies : ∀ p ∈ s.players, ValidBody p) (hplaying : ∃ p ∈ s.players, p.life = .is .playing) :
    ∃ t box, coopCameraFrame s w h rw rh autoscroll = (true, t) ∧ BoundingBox s.players box ∧
      Focused s.players w h rw rh autoscroll box t.camera ∧ Central s.players t.camera ∧
      (autoscroll = false → InRoom s.players rw rh → Fits box w h → Holds s t w h rw rh) := by
  obtain ⟨t, box, hcall, hframed⟩ :=
    @cameraFramed s w h rw rh autoscroll hworking hw hh hrw hrh hbodies hplaying
  refine ⟨t, box, hcall, hframed.extent, hframed.focused, hframed.central hbodies, ?_⟩
  intro hstill hroom hfits
  subst hstill
  obtain ⟨hx, hy, haround⟩ := hframed.around hw hh hbodies hroom hfits
  obtain ⟨hfailed, hadvances, hends⟩ := hframed.running
  obtain ⟨hwidth, hheight, hauto⟩ := hframed.size
  refine ⟨hx, hy, haround, ?_⟩
  intro hadvancing houtcome
  apply check_inside (hfailed.trans hworking) (hadvances.trans hadvancing)
    (hends.trans houtcome) hauto
  apply hframed.mem (P := fun p => p.life = .is .playing → outsideFrame t.camera p = false)
  · exact fun p hp => hp
  · intro p hp hlife
    rw [outsideFrame_eq_false, hwidth, hheight]
    exact haround p hp hlife

end Call

/-- A pair at one place, in a frame that advances, its separation timers running under a camera far
off. -/
def pairAt (life : CoopLifeState) (outcome : CoopOutcome) : CoopSession :=
  { pairSession with
    advancing := true
    outcome := .is outcome
    camera := { pairSession.camera with x := 500, width := 256, height := 224 }
    players := pairSession.players.map fun p =>
      { p with x := 300, y := 100, life := .is life, separationTicks := 5 } }

theorem camera_never_strands_pair :
    ∃ t box, coopCameraFrame (pairAt .playing .continue) 256 224 512 432 false = (true, t) ∧
    BoundingBox (pairAt .playing .continue).players box ∧
    Focused (pairAt .playing .continue).players 256 224 512 432 false box t.camera ∧
    Central (pairAt .playing .continue).players t.camera ∧
    (false = false → InRoom (pairAt .playing .continue).players 512 432 → Fits box 256 224 →
      Holds (pairAt .playing .continue) t 256 224 512 432) :=
  camera_never_strands (s := pairAt .playing .continue) rfl (by decide) (by decide)
    (by decide) (by decide)
    (fun p hp => ((@validPlayers_iff (pairAt .playing .continue).players).1 (by decide)).2.2.1 p hp)
      (by decide)

/-- With nobody in play the frame stays where it was, outside the new room; and behind the end of
the level a check leaves the timers of players inside the frame running. -/
theorem camera_unheld :
    ((∀ p ∈ (pairAt .dying .continue).players, p.life ≠ .is .playing) ∧
      (coopCameraFrame (pairAt .dying .continue) 256 224 512 432 false).1 = true ∧
      ¬ (coopCameraFrame (pairAt .dying .continue) 256 224 512 432 false).2.camera.x.toInt ≤
        max 0 ((512 : Int32).toInt - (256 : Int32).toInt)) ∧
    InRoom (pairAt .playing .clear).players 512 432 ∧ (pairAt .playing .clear).advancing = true ∧
      ∃ p ∈ (coopCameraCheckSeparation
        (coopCameraFrame (pairAt .playing .clear) 256 224 512 432 false).2 false).2.players,
        p.life = .is .playing ∧ p.separationTicks ≠ 0 := by
  refine ⟨⟨by decide, by decide, by decide⟩, ?_, rfl, by decide⟩
  intro p hp _
  simp only [pairAt, List.mem_map] at hp
  obtain ⟨q, hq, rfl⟩ := hp
  revert q
  decide

end SmwRecomp.Coop
