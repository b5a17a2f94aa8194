import SmwRecomp.Coop.Acceptance
import SmwRecomp.Coop.RecoveryOrder

/-!
# Recovery on the terrain

`safe_recovery` asks `coop_terrain_safe` about the session whose bubbles `coop_session_recover` is
returning.

* `safeRecovery` — the predicate, one place after another; `safeRecovery_safe` — it is
  `coop_terrain_safe`.
* `firstLeft` — the first place beside an anchor that is accepted as the session stands and that
  some bodies leave clear.
* `home` — the nearest of the places that are accepted first; `homeBody` — a bubble returned to it.
* `Uncrowded` — no body stands in another's home, or makes room for a place that is nearer;
  `safe_recovery_order` — the order of the players does not matter exactly then.
-/

set_option autoImplicit false

namespace SmwRecomp.Coop

/-! ## The predicate of the simulation -/

namespace CoopTerrain

/-- The terrain over a session. -/
def inSession (t : CoopTerrain) (s : CoopSession) : CoopTerrain := { t with session := some s }

/-- A turn of the loop of `coop_terrain_safe`; a place whose computation leaves `int` is refused. -/
def placeAt (t : CoopTerrain) (p a : CoopPlayer) (d : Int) : Option (Int × Int) :=
  match (do
    let center ← int32 (a.x.toInt + d)
    t.safeAt p a center) with
  | .ok place => place
  | .error _ => none

end CoopTerrain

/-- `safe_recovery`, whose context holds the session itself. -/
def safeRecovery (t : CoopTerrain) : CoopSafePlacement := fun s p a =>
  if a.life ≠ .is .playing then none
  else (CoopTerrain.offsets.findSome? ((t.inSession s).placeAt p a)).map fun place =>
    (Int32.ofInt place.1, Int32.ofInt place.2)

/-- `safe_recovery` of the players. -/
def terrainQuery (t : CoopTerrain) : Query :=
  fun ps => safeRecovery t { (default : CoopSession) with players := ps }

/-! ## Places and bodies -/

/-- Where a player returns to beside an anchor. -/
def spotAt (p a : CoopPlayer) (d : Int) : Int32 × Int32 :=
  (Int32.ofInt (a.x.toInt + d),
    Int32.ofInt (a.y.toInt + a.height.toInt.tdiv 2 - (CoopTerrain.pose p).1.tdiv 2))

/-- The squared distance to it. -/
def distanceTo (p a : CoopPlayer) (d : Int) : Nat :=
  distance2 p.x p.y (spotAt p a d).1 (spotAt p a d).2

def placement (p : CoopPlayer) (u : CoopPlayer × Int) : Placement :=
  (u.1.id, distanceTo p u.1 u.2, spotAt p u.1 u.2)

/-- `coop_terrain_safe` accepts the place as the session stands. -/
def accepts (t : CoopTerrain) (s : CoopSession) (p a : CoopPlayer) (d : Int) : Bool :=
  ((t.inSession s).placeAt p a d).isSome

/-- A player leaves the place clear. -/
def standsClear (p a : CoopPlayer) (d : Int) (q : CoopPlayer) : Bool :=
  let body := CoopTerrain.bodyBox p a (a.x.toInt + d)
  CoopTerrain.clearOfPlayer p body.left (body.right - 1) body.top body.feet q = .ok true

/-- The first place beside an anchor that is accepted and that the bodies leave clear. -/
def firstLeft (t : CoopTerrain) (s : CoopSession) (bodies : List CoopPlayer)
    (p a : CoopPlayer) : Option Int :=
  CoopTerrain.offsets.find? fun d => accepts t s p a d && bodies.all (standsClear p a d)

/-- The nearest of the first places. -/
def nearestLeft (t : CoopTerrain) (s : CoopSession) (bodies : List CoopPlayer) (p : CoopPlayer) :
    Option (CoopPlayer × Int) :=
  least (fun u v => nearer s (placement p u) (placement p v))
    ((anchorsOf s.players).filterMap fun a => (firstLeft t s bodies p a).map fun d => (a, d))

/-- The anchor and the place of a player as the session stands. -/
def home (t : CoopTerrain) (s : CoopSession) (p : CoopPlayer) : Option (CoopPlayer × Int) :=
  nearestLeft t s [] p

/-- The player returned to its home. -/
def homeBody (t : CoopTerrain) (s : CoopSession) (p : CoopPlayer) : CoopPlayer :=
  landAt s p ((home t s p).map fun u => spotAt p u.1 u.2)

/-- The bodies of the other bubbles that are due. -/
def otherBodies (t : CoopTerrain) (s : CoopSession) (p : CoopPlayer) : List CoopPlayer :=
  (s.players.filter fun q => elapsed q ∧ q.id ≠ p.id).map (homeBody t s)

/-- Bubbles that return are out of each other's way. -/
structure Uncrowded (t : CoopTerrain) (s : CoopSession) : Prop where
  /-- Each leaves the home of every other clear. -/
  clear : ∀ p ∈ s.players, elapsed p = true → ∀ u ∈ home t s p, ∀ q ∈ otherBodies t s p,
    standsClear p u.1 u.2 q = true
  /-- A place nearer than home stays behind one that no body takes without taking it too. -/
  behind : ∀ p ∈ s.players, elapsed p = true → ∀ u ∈ home t s p, ∀ b ∈ anchorsOf s.players,
    ∀ e ∈ CoopTerrain.offsets, accepts t s p b e = true → distanceTo p b e < distanceTo p u.1 u.2 →
    ∃ f ∈ CoopTerrain.offsets.takeWhile (· ≠ e), accepts t s p b f = true ∧
      ∀ q ∈ otherBodies t s p, standsClear p b f q = false → standsClear p b e q = false
  /-- When another place as near comes up beside an anchor that precedes, home does beside one that
  precedes that. -/
  tied : ∀ p ∈ s.players, elapsed p = true → ∀ u ∈ home t s p, ∀ b ∈ anchorsOf s.players,
    ∀ e ∈ CoopTerrain.offsets, distanceTo p b e = distanceTo p u.1 u.2 →
    spotAt p b e ≠ spotAt p u.1 u.2 →
    coopPlayerPrecedes s b.id u.1.id = true →
    ∀ bodies ⊆ otherBodies t s p, firstLeft t s bodies p b = some e →
      ∃ c ∈ anchorsOf s.players, ∃ f, firstLeft t s bodies p c = some f ∧
      spotAt p c f = spotAt p u.1 u.2 ∧
        coopPlayerPrecedes s c.id b.id = true

/-! ## What the query reads of a session -/

namespace CoopTerrain

section Session

variable (t : CoopTerrain) {s s' : CoopSession}

theorem rowClear_inSession (layer : Nat) (right y : Int) (water : Bool) (fuel : Nat) (x : Int) :
    (t.inSession s).rowClear layer right y water fuel x =
      t.rowClear layer right y water fuel x := by
  induction fuel generalizing x with
  | zero => rfl
  | succ fuel ih =>
    rw [rowClear.eq_2, rowClear.eq_2]
    simp only [ih]
    rfl

theorem rowsClear_inSession (layer : Nat) (left right feet : Int) (water : Bool)
    (fuel : Nat) (y : Int) :
    (t.inSession s).rowsClear layer left right feet water fuel y =
      t.rowsClear layer left right feet water fuel y := by
  induction fuel generalizing y with
  | zero => rfl
  | succ fuel ih =>
    rw [rowsClear.eq_2, rowsClear.eq_2]
    simp only [ih, rowClear_inSession]

theorem layerSupport_inSession (left right top feet : Int) (water : Bool) (layer : Nat) :
    (t.inSession s).layerSupport left right top feet water layer =
      t.layerSupport left right top feet water layer := by
  unfold layerSupport bodyClear
  simp only [rowsClear_inSession]
  rfl

theorem clearOfSprites_congr (h : s'.players = s.players) :
    (t.inSession s').clearOfSprites = (t.inSession s).clearOfSprites := by
  have hrider : (t.inSession s').riderOwnsSprite = (t.inSession s).riderOwnsSprite := by
    funext i
    unfold riderOwnsSprite inSession coopPlayer
    dsimp only
    rw [h]
  funext left right top feet
  unfold clearOfSprites clearOfSprite
  simp only [hrider]
  rfl

/-- Of a session the query reads the players. -/
theorem safeAt_congr (h : s'.players = s.players) (returning anchor : CoopPlayer) (center : Int) :
    (t.inSession s').safeAt returning anchor center =
      (t.inSession s).safeAt returning anchor center := by
  unfold safeAt
  simp only [layerSupport_inSession, clearOfSprites_congr t h]
  unfold inSession
  dsimp only
  rw [h]
  rfl

theorem placeAt_congr (h : s'.players = s.players) (p a : CoopPlayer) (d : Int) :
    (t.inSession s').placeAt p a d = (t.inSession s).placeAt p a d := by
  unfold placeAt
  simp only [safeAt_congr t h]

/-- The turns one by one are the loop, where that stays in `int`. -/
theorem findSome_placeAt (p a : CoopPlayer) : ∀ (ds : List Int) {place : Option (Int × Int)},
    t.firstSafe p a ds = .ok place → ds.findSome? (t.placeAt p a) = place
  | [], _, h => Except.ok.inj h
  | d :: ds, place, h => by
    obtain ⟨center, hcenter, h⟩ := checked_bind_ok h
    obtain ⟨here, hhere, h⟩ := checked_bind_ok h
    have hplace : t.placeAt p a d = here := by
      unfold placeAt
      rw [hcenter, checked_bind, hhere]
    cases here with
    | some place => 
      rw [List.findSome?_cons, hplace]
      exact Except.ok.inj h
    | none =>
      rw [List.findSome?_cons, hplace]
      exact findSome_placeAt p a ds h

theorem placeAt_some {p a : CoopPlayer} {d : Int} {place : Int × Int}
    (h : t.placeAt p a d = some place) :
    int32 (a.x.toInt + d) = .ok (a.x.toInt + d) ∧ t.safeAt p a (a.x.toInt + d) =
      .ok (some place) := by
  unfold placeAt at h
  split at h
  · rename_i hsafe
    subst h
    obtain ⟨center, hcenter, hplace⟩ := checked_bind_ok hsafe
    obtain ⟨rfl, -⟩ := int32_eq_ok hcenter
    exact ⟨hcenter, hplace⟩
  · cases h

end Session

end CoopTerrain

section Query

variable (t : CoopTerrain) {s s' : CoopSession} {p a : CoopPlayer} {d : Int}

/-- Where `coop_terrain_safe` stays in `int`, it is what is asked. -/
theorem safeRecovery_safe {place : Option (Int × Int)} (h : (t.inSession s).safe p a = .ok place) :
    safeRecovery t s p a = place.map fun place => (Int32.ofInt place.1, Int32.ofInt place.2) := by
  unfold safeRecovery
  unfold CoopTerrain.safe at h
  obtain ⟨hlife, h⟩ | ⟨hlife, h⟩ := checked_ite_ok h
  · rw [if_pos hlife, ← Except.ok.inj h]
    rfl
  · rw [if_neg hlife, CoopTerrain.findSome_placeAt _ p a _ h]

theorem safeRecovery_congr (h : s'.players = s.players) :
    safeRecovery t s' p a = safeRecovery t s p a := by
  have hplace : (t.inSession s').placeAt p a = (t.inSession s).placeAt p a := funext fun d =>
    t.placeAt_congr h p a d
  unfold safeRecovery
  rw [hplace]

theorem safeRecovery_query : safeRecovery t = (terrainQuery t).safe := by
  funext s p a
  have hplayers : s.players = { (default : CoopSession) with players := s.players }.players := rfl
  exact safeRecovery_congr t hplayers

variable {t}

theorem accepts_iff : accepts t s p a d = true ↔ int32 (a.x.toInt + d) = .ok (a.x.toInt + d) ∧
    ∃ place, (t.inSession s).safeAt p a (a.x.toInt + d) = .ok (some place) := by
  unfold accepts
  rw [Option.isSome_iff_exists]
  constructor
  · rintro ⟨place, hplace⟩
    obtain ⟨hcenter, hsafe⟩ := (t.inSession s).placeAt_some hplace
    exact ⟨hcenter, place, hsafe⟩
  · rintro ⟨hcenter, place, hsafe⟩
    refine ⟨place, ?_⟩
    unfold CoopTerrain.placeAt
    rw [hcenter, checked_bind, hsafe]

/-- The place of an accepted offset. -/
theorem placeAt_accepts (h : accepts t s p a d = true) :
    ((t.inSession s).placeAt p a d).map (fun place => (Int32.ofInt place.1, Int32.ofInt place.2)) =
      some (spotAt p a d) := by
  obtain ⟨⟨x, y⟩, hplace⟩ := Option.isSome_iff_exists.1 h
  obtain ⟨-, hsafe⟩ := (t.inSession s).placeAt_some hplace
  obtain ⟨rfl, rfl, -⟩ := CoopTerrain.safeAt_checks hsafe
  rw [hplace]
  rfl

theorem findSome_accepts : ∀ ds : List Int,
    (ds.findSome? ((t.inSession s).placeAt p a)).map
      (fun place => (Int32.ofInt place.1, Int32.ofInt place.2)) =
      (ds.find? (accepts t s p a)).map (spotAt p a)
  | [] => rfl
  | d :: ds => by
    rw [List.findSome?_cons, List.find?_cons]
    cases haccepts : accepts t s p a d with
    | false =>
      rw [show (t.inSession s).placeAt p a d = none by simpa [accepts] using haccepts]
      exact findSome_accepts ds
    | true =>
      have hplace := placeAt_accepts haccepts
      obtain ⟨place, hsome⟩ := Option.isSome_iff_exists.1 haccepts
      rw [hsome] at hplace ⊢
      exact hplace

/-- An anchor offers its first accepted place. -/
theorem candidate_terrain {ps : List CoopPlayer} (ha : a.life = .is .playing) :
    candidate (terrainQuery t) ps p a =
    (CoopTerrain.offsets.find? (accepts t { (default : CoopSession) with players := ps } p a)).map
      fun d => placement p (a, d) := by
  unfold candidate terrainQuery safeRecovery
  rw [if_neg (not_not.2 ha), findSome_accepts, Option.map_map]
  rfl

end Query

/-! ## Bubbles that returned before -/

section Moved

variable {t : CoopTerrain} {s s' : CoopSession} {p a q : CoopPlayer} {d : Int}
  {g : CoopPlayer → CoopPlayer}

/-- What a move of the players keeps: who they are, what they ride, and that they ride it. -/
structure Moves (s s' : CoopSession) (g : CoopPlayer → CoopPlayer) : Prop where
  perm : (s.players.map g).Perm s'.players
  id : ∀ p, (g p).id = p.id
  mount : ∀ p, (g p).mount = p.mount
  /-- A player in play stays where it is, and a bubble stays or comes into play. -/
  life : ∀ p, g p = p ∨
    ((p.life = .is .deathBubble ∨ p.life = .is .catchupBubble) ∧ (g p).life = .is .playing)

theorem Moves.rider (h : Moves s s' g) (hids : (s.players.map CoopPlayer.id).Nodup)
    (t : CoopTerrain) (i : Nat) :
    (t.inSession s').riderOwnsSprite i = (t.inSession s).riderOwnsSprite i := by
  have hids' : ((s.players.map g).map CoopPlayer.id).Nodup := by
    rw [List.map_map, show CoopPlayer.id ∘ g = CoopPlayer.id from funext h.id]
    exact hids
  have hfind : ∀ id, coopPlayer s' id = (coopPlayer s id).map g := fun id =>
    (findKey_perm hids' h.perm id).symm.trans (findKey_map h.id id s.players)
  unfold CoopTerrain.riderOwnsSprite CoopTerrain.inSession
  dsimp only
  simp only [hfind]
  congr 2
  funext e
  cases coopPlayer s e.owner with
  | none => rfl
  | some p =>
    dsimp only [Option.map_some]
    rw [h.mount]
    obtain hsame | ⟨hbubble | hbubble, hplaying⟩ := h.life p
    · rw [hsame]
    · rw [hplaying, hbubble]
      rfl
    · rw [hplaying, hbubble]
      rfl

theorem Moves.sprites (h : Moves s s' g) (hids : (s.players.map CoopPlayer.id).Nodup)
    (t : CoopTerrain) :
    (t.inSession s').clearOfSprites = (t.inSession s).clearOfSprites := by
  funext left right top feet
  unfold CoopTerrain.clearOfSprites CoopTerrain.clearOfSprite
  simp only [h.rider hids t]
  rfl

theorem allOk_of {α : Type} {check : α → Checked Bool} :
    ∀ {as : List α}, (∀ a ∈ as, check a = .ok true) →
    allOk check as = .ok true
  | [], _ => rfl
  | a :: as, h => by
    rw [List.forall_mem_cons] at h
    unfold allOk
    rw [h.1, checked_bind]
    exact allOk_of h.2

/-- Where the rest of the query is the same, only the players can refuse. -/
theorem safeAt_players (hsprites : (t.inSession s').clearOfSprites = (t.inSession s).clearOfSprites)
    {center : Int} {place : Int × Int} (h : (t.inSession s).safeAt p a center = .ok (some place))
    (hplayers : ∀ q ∈ s'.players, CoopTerrain.clearOfPlayer p (CoopTerrain.bodyBox p a center).left
      ((CoopTerrain.bodyBox p a center).right - 1) (CoopTerrain.bodyBox p a center).top
      (CoopTerrain.bodyBox p a center).feet q = .ok true) :
    (t.inSession s').safeAt p a center = .ok (some place) := by
  have hall := allOk_of hplayers
  unfold CoopTerrain.bodyBox at hall
  unfold CoopTerrain.safeAt at h ⊢
  generalize CoopTerrain.pose p = pose at h hall ⊢
  obtain ⟨height, clearance, half⟩ := pose
  dsimp only at h hall ⊢
  simp only [CoopTerrain.layerSupport_inSession, hsprites] at h ⊢
  obtain ⟨feet, hfeet, h⟩ := checked_bind_ok h
  obtain ⟨left, hleft, h⟩ := checked_bind_ok h
  obtain ⟨right, hright, h⟩ := checked_bind_ok h
  obtain ⟨last, hlast, h⟩ := checked_bind_ok h
  rw [← (int32_eq_ok hfeet).1, ← (int32_eq_ok hleft).1, ← (int32_eq_ok hright).1,
    ← (int32_eq_ok hlast).1] at hall
  rw [hfeet, checked_bind, hleft, checked_bind, hright, checked_bind, hlast, checked_bind]
  obtain ⟨-, h⟩ | ⟨hfits, h⟩ := checked_ite_ok h
  · cases h
  rw [if_neg hfits]
  obtain ⟨first, hfirst, h⟩ := checked_bind_ok h
  rw [hfirst, checked_bind]
  cases first with
  | none => cases h
  | some support0 =>
    obtain ⟨second, hsecond, h⟩ := checked_bind_ok h
    dsimp only
    rw [hsecond, checked_bind]
    cases second with
    | none => cases h
    | some support1 =>
      obtain ⟨platform, hplatform, h⟩ := checked_bind_ok h
      dsimp only
      have hplatform' : anyOk (fun i => (t.inSession s').platformFooting i left last feet)
        (List.range 12) = .ok platform :=
        hplatform
      rw [hplatform', checked_bind]
      obtain ⟨-, h⟩ | ⟨hsupport, h⟩ := checked_ite_ok h
      · cases h
      rw [if_neg hsupport]
      obtain ⟨sprites, hclear, h⟩ := checked_bind_ok h
      rw [hclear, checked_bind]
      cases sprites with
      | false => cases h
      | true =>
        obtain ⟨others, hothers, h⟩ := checked_bind_ok h
        cases others with
        | false => cases h
        | true =>
          refine Eq.trans ?_ h
          exact congrArg (fun clear : Checked Bool => clear >>= fun ok =>
            if (!ok) = true then pure none else pure (some (center, feet - height.tdiv 2))) hall

theorem standsClear_iff : standsClear p a d q = true ↔
    CoopTerrain.clearOfPlayer p (CoopTerrain.bodyBox p a (a.x.toInt + d)).left
      ((CoopTerrain.bodyBox p a (a.x.toInt + d)).right - 1)
        (CoopTerrain.bodyBox p a (a.x.toInt + d)).top
      (CoopTerrain.bodyBox p a (a.x.toInt + d)).feet q = .ok true := decide_eq_true_iff

theorem standsClear_bubble (h : q.life ≠ .is .playing) : standsClear p a d q = true := by
  rw [standsClear_iff]
  unfold CoopTerrain.clearOfPlayer
  exact if_pos (.inr h)

theorem accepts_clear (h : accepts t s p a d = true) (hq : q ∈ s.players) :
    standsClear p a d q = true := by
  obtain ⟨-, place, hsafe⟩ := accepts_iff.1 h
  obtain ⟨-, -, hchecks⟩ := CoopTerrain.safeAt_checks hsafe
  exact standsClear_iff.2 (allOk_true (hchecks.players s rfl) q hq)

/-- After a move a place is accepted that was before it, if the players leave it clear where they
are now. -/
theorem accepts_moved (h : Moves s s' g) (hids : (s.players.map CoopPlayer.id).Nodup) :
    accepts t s' p a d = true ↔
    accepts t s p a d = true ∧ ∀ q ∈ s.players, standsClear p a d (g q) = true := by
  have hmem : ∀ {q}, q ∈ s'.players ↔ ∃ q' ∈ s.players, g q' = q := fun {q} => by
    rw [← h.perm.mem_iff, List.mem_map]
  constructor
  · intro haccepts
    have hclear : ∀ q ∈ s.players, standsClear p a d (g q) = true := fun q hq =>
      accepts_clear haccepts (hmem.2 ⟨q, hq, rfl⟩)
    refine ⟨?_, hclear⟩
    obtain ⟨hcenter, place, hsafe⟩ := accepts_iff.1 haccepts
    refine accepts_iff.2 ⟨hcenter, place, safeAt_players (h.sprites hids t).symm hsafe fun q hq =>
      standsClear_iff.1 ?_⟩
    obtain hsame | ⟨hbubble, -⟩ := h.life q
    · exact hsame ▸ hclear q hq
    · refine standsClear_bubble fun hplaying => ?_
      rw [hplaying] at hbubble
      revert hbubble
      decide
  · rintro ⟨haccepts, hclear⟩
    obtain ⟨hcenter, place, hsafe⟩ := accepts_iff.1 haccepts
    refine accepts_iff.2 ⟨hcenter, place, safeAt_players (h.sprites hids t) hsafe fun q hq =>
      standsClear_iff.1 ?_⟩
    obtain ⟨q', hq', rfl⟩ := hmem.1 hq
    exact hclear q' hq'

theorem homeBody_still (h : elapsed q = false) : homeBody t s q = q := landAt_stays h _

theorem homeBody_id : (homeBody t s q).id = q.id := landAt_id _

theorem returnPlayer_mount (s : CoopSession) (p : CoopPlayer) (x y : Int32) :
    (returnPlayer s p x y).mount = p.mount := by
  unfold returnPlayer
  split <;> rfl

theorem homeBody_mount : (homeBody t s q).mount = q.mount := by
  unfold homeBody
  cases home t s q with
  | none => rfl
  | some u =>
    unfold landAt
    dsimp only [Option.map_some]
    split
    · exact returnPlayer_mount s q _ _
    · rfl

theorem homeBody_life : homeBody t s q = q ∨
    ((q.life = .is .deathBubble ∨ q.life = .is .catchupBubble) ∧ (homeBody t s q).life =
      .is .playing) := by
  unfold homeBody
  cases home t s q with
  | none => exact .inl rfl
  | some u =>
    unfold landAt
    dsimp only [Option.map_some]
    by_cases hdue : elapsed q = true
    · rw [if_pos hdue]
      exact .inr ⟨(of_decide_eq_true hdue).1, (returnPlayer_place s q _ _).1⟩
    · rw [if_neg hdue]
      exact .inl rfl

/-- Some of the bubbles are returned to their homes. -/
theorem moves_before {before after : List CoopPlayer}
    (hperm : (before ++ p :: after).Perm s.players)
    (hids : (s.players.map CoopPlayer.id).Nodup) :
    Moves s { (default : CoopSession) with players := before.map (homeBody t s) ++ p :: after }
      (fun q => if q ∈ before then homeBody t s q else q) := by
  have hnodup : (before ++ p :: after).Nodup := hperm.nodup_iff.2 hids.of_map
  refine ⟨?_, fun q => ?_, fun q => ?_, fun q => ?_⟩
  · refine (hperm.symm.map _).trans (List.Perm.of_eq ?_)
    rw [List.map_append]
    refine congrArg₂ _ (List.map_congr_left fun q hq => if_pos hq) ?_
    refine (List.map_congr_left fun q hq => if_neg ?_).trans (List.map_id _)
    exact fun hbefore => (List.nodup_append.1 hnodup).2.2 q hbefore q hq rfl
  · split
    · exact homeBody_id
    · rfl
  · split
    · exact homeBody_mount
    · rfl
  · split
    · exact homeBody_life
    · exact .inl rfl

variable {before after : List CoopPlayer}

theorem accepts_before (hperm : (before ++ p :: after).Perm s.players)
    (hids : (s.players.map CoopPlayer.id).Nodup) :
    accepts t { (default : CoopSession) with players := before.map (homeBody t s) ++ p :: after }
        p a d =
      (accepts t s p a d && (before.map (homeBody t s)).all (standsClear p a d)) := by
  rw [Bool.eq_iff_iff, Bool.and_eq_true, List.all_eq_true, List.forall_mem_map,
    accepts_moved (moves_before hperm hids) hids]
  refine and_congr_right fun haccepts => ⟨fun h q hq => ?_, fun h q hq => ?_⟩
  · have hclear := h q (hperm.subset (List.mem_append_left _ hq))
    rwa [if_pos hq] at hclear
  · split
    · rename_i hbefore
      exact h q hbefore
    · exact accepts_clear haccepts hq

/-- A player that is asked about after others have returned lands at the nearest of the first places
they leave. -/
theorem landing_before (hperm : (before ++ p :: after).Perm s.players)
    (hids : (s.players.map CoopPlayer.id).Nodup) :
    landing s (terrainQuery t) (anchorsOf s.players) (before.map (homeBody t s) ++ p :: after) p =
      (nearestLeft t s (before.map (homeBody t s)) p).map (placement p) := by
  have hcandidates : (anchorsOf s.players).filterMap
      (candidate (terrainQuery t) (before.map (homeBody t s) ++ p :: after) p) =
      ((anchorsOf s.players).filterMap fun a =>
        (firstLeft t s (before.map (homeBody t s)) p a).map fun d => (a, d)).map (placement p) := by
    rw [List.map_filterMap]
    refine List.filterMap_congr fun a ha => ?_
    have hplaying : a.life = .is .playing := by simpa using (List.mem_filter.1 ha).2
    rw [candidate_terrain hplaying, Option.map_map]
    have hfirst : (CoopTerrain.offsets.find?
        (accepts t
          { (default : CoopSession) with players := before.map (homeBody t s) ++ p :: after } p
          a)) =
        firstLeft t s (before.map (homeBody t s)) p a :=
      congrArg (fun f => CoopTerrain.offsets.find? f) (funext fun d => accepts_before hperm hids)
    rw [hfirst]
    rfl
  unfold landing
  rw [hcandidates, least_map]
  rfl

theorem spot_before (hperm : (before ++ p :: after).Perm s.players)
    (hids : (s.players.map CoopPlayer.id).Nodup) :
    spot s (terrainQuery t) (before.map (homeBody t s) ++ p :: after) p =
      (nearestLeft t s (before.map (homeBody t s)) p).map fun u => spotAt p u.1 u.2 := by
  unfold spot
  rw [landing_before hperm hids, Option.map_map]
  rfl

theorem alone_home (hp : p ∈ s.players) (hids : (s.players.map CoopPlayer.id).Nodup) :
    alone s (terrainQuery t) p = (home t s p).map fun u => spotAt p u.1 u.2 := by
  have hperm : ([] ++ p :: s.players.erase p).Perm s.players := (List.perm_cons_erase hp).symm
  have hspot := spot_before (t := t) hperm hids
  rw [List.map_nil, List.nil_append] at hspot
  exact hspot

theorem returned_home (hq : q ∈ s.players) (hids : (s.players.map CoopPlayer.id).Nodup) :
    returned s (terrainQuery t) q = homeBody t s q := by
  unfold returned homeBody
  rw [alone_home hq hids]

theorem nearestLeft_congr {bodies bodies' : List CoopPlayer} (h : ∀ a d, accepts t s p a d = true →
    bodies.all (standsClear p a d) = bodies'.all (standsClear p a d)) :
    nearestLeft t s bodies p = nearestLeft t s bodies' p := by
  have hfirst : firstLeft t s bodies p = firstLeft t s bodies' p := by
    funext a
    refine congrArg (fun f => CoopTerrain.offsets.find? f) (funext fun d => ?_)
    cases haccepts : accepts t s p a d with
    | false => rfl
    | true => rw [h a d haccepts]
  unfold nearestLeft
  rw [hfirst]

/-- Nobody is disturbed when each lands at home, whichever bodies are home before it. -/
theorem undisturbed_homes (hids : (s.players.map CoopPlayer.id).Nodup) :
    Undisturbed s (terrainQuery t) ↔
    ∀ p ∈ s.players, elapsed p = true → ∀ bodies ⊆ otherBodies t s p,
      (nearestLeft t s bodies p).map (fun u => spotAt p u.1 u.2) = (home t s p).map fun u =>
      spotAt p u.1 u.2 := by
  have hreturned : ∀ {before : List CoopPlayer} {p after}, (before ++ p :: after).Perm s.players →
      before.map (returned s (terrainQuery t)) = before.map (homeBody t s) := fun hperm =>
    List.map_congr_left fun q hq => returned_home (hperm.subset (List.mem_append_left _ hq)) hids
  constructor
  · intro hundisturbed p hp hdue bodies hbodies
    let chosen : CoopPlayer → Bool := fun q => elapsed q ∧ q.id ≠ p.id ∧ homeBody t s q ∈ bodies
    have hother : p ∈ s.players.filter fun q => !chosen q :=
      List.mem_filter.2 ⟨hp, by simp [chosen]⟩
    have hperm :
      (s.players.filter chosen ++ p :: (s.players.filter fun q => !chosen q).erase p).Perm
      s.players :=
      ((List.perm_cons_erase hother).symm.append_left _).trans
        (List.filter_append_perm chosen s.players)
    have hspot := hundisturbed _ p _ hperm hdue
    rw [hreturned hperm, spot_before hperm hids, alone_home hp hids] at hspot
    rw [← hspot]
    refine congrArg _ (nearestLeft_congr fun a d _ => ?_)
    have hsame : ∀ q, q ∈ bodies ↔ q ∈ (s.players.filter chosen).map (homeBody t s) := fun q => by
      rw [List.mem_map]
      constructor
      · intro hq
        obtain ⟨q', hq', rfl⟩ := List.mem_map.1 (hbodies hq)
        obtain ⟨hmem, hothers⟩ := List.mem_filter.1 hq'
        have hothers := of_decide_eq_true hothers
        exact ⟨q', List.mem_filter.2 ⟨hmem, decide_eq_true ⟨hothers.1, hothers.2, hq⟩⟩, rfl⟩
      · rintro ⟨q', hq', rfl⟩
        exact (of_decide_eq_true (List.mem_filter.1 hq').2).2.2
    rw [Bool.eq_iff_iff, List.all_eq_true, List.all_eq_true]
    exact forall_congr' fun q => imp_congr_left (hsame q)
  · intro h before p after hperm hdue
    have hp : p ∈ s.players := hperm.subset (List.mem_append_right _ List.mem_cons_self)
    have hids' : ((before ++ p :: after).map CoopPlayer.id).Nodup :=
      (hperm.map CoopPlayer.id).nodup_iff.2 hids
    rw [hreturned hperm, spot_before hperm hids, alone_home hp hids]
    have hother : (before.filter fun q => elapsed q).map (homeBody t s) ⊆ otherBodies t s p := by
      refine List.map_subset _ fun q hq => ?_
      obtain ⟨hq, hdueq⟩ := List.mem_filter.1 hq
      refine List.mem_filter.2 ⟨hperm.subset (List.mem_append_left _ hq),
        decide_eq_true ⟨hdueq, fun heq => ?_⟩⟩
      rw [List.map_append, List.map_cons] at hids'
      exact (List.nodup_append.1 hids').2.2 _ (List.mem_map_of_mem hq) _ List.mem_cons_self heq
    rw [← h p hp hdue _ hother]
    refine congrArg _ (nearestLeft_congr fun a d haccepts => ?_)
    rw [Bool.eq_iff_iff, List.all_eq_true, List.all_eq_true, List.forall_mem_map,
      List.forall_mem_map]
    refine ⟨fun hall q hq => hall q (List.mem_filter.1 hq).1, fun hall q hq => ?_⟩
    cases hdueq : elapsed q with
    | true => exact hall q (List.mem_filter.2 ⟨hq, hdueq⟩)
    | false =>
      rw [homeBody_still hdueq]
      exact accepts_clear haccepts (hperm.subset (List.mem_append_left _ hq))

end Moved

/-! ## Nobody in the way -/

section Homes

variable {t : CoopTerrain} {s : CoopSession} {bodies : List CoopPlayer}
  {p a b q : CoopPlayer} {d e : Int}

theorem find?_takeWhile {α : Type} [DecidableEq α] {P : α → Bool} {x : α} :
    ∀ xs : List α, xs.find? P = some x ↔
    x ∈ xs ∧ P x = true ∧ ∀ y ∈ xs.takeWhile (· ≠ x), P y = false
  | [] => by simp
  | y :: ys => by
    rw [List.find?_cons, List.takeWhile_cons]
    by_cases hxy : y = x
    · subst hxy
      cases hP : P y with
      | true => simp
      | false => simp [find?_takeWhile ys, hP]
    · cases hP : P y with
      | true => simp [hxy, hP]
      | false => simp [find?_takeWhile ys, hxy, hP, Ne.symm hxy]

theorem firstLeft_iff : firstLeft t s bodies p a = some d ↔ d ∈ CoopTerrain.offsets ∧
    (accepts t s p a d = true ∧ ∀ q ∈ bodies, standsClear p a d q = true) ∧
    ∀ f ∈ CoopTerrain.offsets.takeWhile (· ≠ d), accepts t s p a f = true →
    ∃ q ∈ bodies, standsClear p a f q = false := by
  unfold firstLeft
  rw [find?_takeWhile]
  simp only [Bool.and_eq_true, List.all_eq_true, Bool.and_eq_false_imp, List.all_eq_false,
    Bool.not_eq_true]

theorem mem_firsts {u : CoopPlayer × Int} : (u ∈ (anchorsOf s.players).filterMap fun a =>
    (firstLeft t s bodies p a).map fun d => (a, d)) ↔ u.1 ∈ anchorsOf s.players ∧
    firstLeft t s bodies p u.1 = some u.2 := by
  rw [List.mem_filterMap]
  constructor
  · rintro ⟨a, ha, hu⟩
    obtain ⟨d, hd, rfl⟩ := Option.map_eq_some_iff.1 hu
    exact ⟨ha, hd⟩
  · rintro ⟨ha, hd⟩
    exact ⟨u.1, ha, by rw [hd]; rfl⟩

theorem nearestLeft_none : nearestLeft t s bodies p = none ↔ ∀ a ∈ anchorsOf s.players,
    firstLeft t s bodies p a = none := by
  unfold nearestLeft
  rw [least_eq_none ((strict_nearer s).comap (placement p)), List.filterMap_eq_nil_iff]
  simp only [Option.map_eq_none_iff]

theorem nearestLeft_some {u : CoopPlayer × Int} (h : nearestLeft t s bodies p = some u) :
    u.1 ∈ anchorsOf s.players ∧
    firstLeft t s bodies p u.1 = some u.2 ∧ ∀ b ∈ anchorsOf s.players, ∀ e,
    firstLeft t s bodies p b = some e →
      ¬ (distanceTo p b e < distanceTo p u.1 u.2 ∨
        (distanceTo p b e = distanceTo p u.1 u.2 ∧ coopPlayerPrecedes s b.id u.1.id = true)) := by
  obtain ⟨hmem, hleast⟩ := least_some ((strict_nearer s).comap (placement p)) h
  obtain ⟨ha, hd⟩ := mem_firsts.1 hmem
  refine ⟨ha, hd, fun b hb e he hnearer => ?_⟩
  have hnot := hleast (b, e) (mem_firsts.2 ⟨hb, he⟩)
  rw [nearer_iff.2 hnearer] at hnot
  cases hnot

theorem pose_heights (p : CoopPlayer) : 0 ≤ (CoopTerrain.pose p).1 ∧ (CoopTerrain.pose p).1 ≤
    (CoopTerrain.pose p).2.1 := by
  unfold CoopTerrain.pose
  dsimp only
  by_cases hmount : p.mount = COOP_NO_ENTITY <;>
    by_cases htall : p.checkpointUpgrade = true ∨ p.power ≠ .is .small <;> simp [hmount, htall]

/-- An accepted place is one of guest coordinates. -/
theorem accepts_fits (h : accepts t s p a d = true) :
    (-2147483648 ≤ a.x.toInt + d ∧ a.x.toInt + d < 2147483648) ∧
    0 ≤ a.y.toInt + a.height.toInt.tdiv 2 - (CoopTerrain.pose p).2.1 ∧
    a.y.toInt + a.height.toInt.tdiv 2 < 2147483648 := by
  obtain ⟨hcenter, place, hsafe⟩ := accepts_iff.1 h
  obtain ⟨-, hlow, hhigh⟩ := int32_eq_ok hcenter
  obtain ⟨-, -, hchecks⟩ := CoopTerrain.safeAt_checks hsafe
  obtain ⟨feet, hfeet, -⟩ := checked_bind_ok hsafe
  obtain ⟨-, -, hfeet⟩ := int32_eq_ok hfeet
  exact ⟨⟨hlow, by omega⟩, hchecks.fits.2, by omega⟩

/-- Two accepted places at one spot are one place. -/
theorem standsClear_spot (ha : accepts t s p a d = true) (hb : accepts t s p b e = true)
    (hspot : spotAt p a d = spotAt p b e) : standsClear p a d = standsClear p b e := by
  obtain ⟨hx, htop, hfeet⟩ := accepts_fits ha
  obtain ⟨hx', htop', hfeet'⟩ := accepts_fits hb
  obtain ⟨hlow, hhigh⟩ := pose_heights p
  obtain ⟨hcenter, hlevel⟩ := Prod.mk.inj hspot
  have hcenter : a.x.toInt + d = b.x.toInt + e := by
    rw [← Int32.toInt_ofInt_of_le hx.1 hx.2, hcenter, Int32.toInt_ofInt_of_le hx'.1 hx'.2]
  have hhalf : (CoopTerrain.pose p).1.tdiv 2 = (CoopTerrain.pose p).1 / 2 :=
    Int.tdiv_eq_ediv_of_nonneg hlow
  have hlevel : a.y.toInt + a.height.toInt.tdiv 2 = b.y.toInt + b.height.toInt.tdiv 2 := by
    have hread := congrArg Int32.toInt hlevel
    rw [Int32.toInt_ofInt_of_le (by omega) (by omega),
      Int32.toInt_ofInt_of_le (by omega) (by omega)] at hread
    omega
  have hbody : CoopTerrain.bodyBox p a (a.x.toInt + d) = CoopTerrain.bodyBox p b
    (b.x.toInt + e) := by
    unfold CoopTerrain.bodyBox
    rw [hcenter, hlevel]
  unfold standsClear
  rw [hbody]

theorem distanceTo_spot (hspot : spotAt p a d = spotAt p b e) :
    distanceTo p a d = distanceTo p b e := by
  unfold distanceTo
  rw [hspot]

/-- Where nobody is in the way, a bubble lands at home whichever bodies are home before it. -/
theorem Uncrowded.lands (h : Uncrowded t s) (hids : (s.players.map CoopPlayer.id).Nodup)
    (hp : p ∈ s.players)
    (hdue : elapsed p = true) (hbodies : bodies ⊆ otherBodies t s p) :
    (nearestLeft t s bodies p).map (fun u => spotAt p u.1 u.2) = (home t s p).map fun u =>
    spotAt p u.1 u.2 := by
  cases hhome : home t s p with
  | none =>
    have hnone : nearestLeft t s bodies p = none := by
      refine nearestLeft_none.2 fun a ha => Option.eq_none_iff_forall_ne_some.2 fun d hd => ?_
      obtain ⟨hoffset, ⟨haccepts, -⟩, -⟩ := firstLeft_iff.1 hd
      have hfirst := List.find?_eq_none.1 (nearestLeft_none.1 hhome a ha) d hoffset
      rw [haccepts] at hfirst
      exact hfirst rfl
    rw [hnone]
  | some u =>
    obtain ⟨hu, hfirst, -⟩ := nearestLeft_some hhome
    obtain ⟨hoffset, ⟨haccepts, -⟩, hbefore⟩ := firstLeft_iff.1 hfirst
    have hmem : u ∈ home t s p := hhome
    have hstill : firstLeft t s bodies p u.1 = some u.2 := firstLeft_iff.2
      ⟨hoffset, ⟨haccepts, fun q hq =>
      h.clear p hp hdue u hmem q (hbodies hq)⟩, fun f hf hopen => by
        obtain ⟨q, hq, -⟩ := hbefore f hf hopen
        cases hq⟩
    cases hlands : nearestLeft t s bodies p with
    | none =>
      rw [nearestLeft_none.1 hlands u.1 hu] at hstill
      cases hstill
    | some v =>
      obtain ⟨b, e⟩ := v
      obtain ⟨hb, he, hleast⟩ := nearestLeft_some hlands
      dsimp only at hb he hleast
      obtain ⟨hoffset', ⟨haccepts', hclear⟩, hbefore'⟩ := firstLeft_iff.1 he
      rw [Option.map_some, Option.map_some]
      refine congrArg some (by_contra fun hne => ?_)
      dsimp only at hne
      have hid : b.id ≠ u.1.id := fun heq => by
        obtain rfl : b = u.1 := List.inj_on_of_nodup_map (anchorsOf_ids hids) hb hu heq
        rw [hstill] at he
        cases he
        exact hne rfl
      have hnot := hleast u.1 hu u.2 hstill
      rcases lt_trichotomy (distanceTo p b e) (distanceTo p u.1 u.2) with hnearer | htie | hfarther
      · obtain ⟨f, hf, hopen, htakes⟩ := h.behind p hp hdue u hmem b hb e hoffset' haccepts' hnearer
        obtain ⟨q, hq, hstands⟩ := hbefore' f hf hopen
        have htaken := htakes q (hbodies hq) hstands
        rw [hclear q hq] at htaken
        cases htaken
      · have hprecedes : coopPlayerPrecedes s b.id u.1.id = true :=
          (precedes_total s hid).resolve_right fun hfirst => hnot (.inr ⟨htie.symm, hfirst⟩)
        obtain ⟨c, hc, f, hf, hspot, hbeats⟩ :=
          h.tied p hp hdue u hmem b hb e hoffset' htie hne hprecedes bodies hbodies he
        exact hleast c hc f hf (.inr ⟨(distanceTo_spot hspot).trans htie.symm, hbeats⟩)
      · exact hnot (.inl hfarther)

/-- Where every bubble lands at home whichever bodies are home before it, nobody is in the way. -/
theorem uncrowded_of_lands (hids : (s.players.map CoopPlayer.id).Nodup)
    (h : ∀ p ∈ s.players, elapsed p = true → ∀ bodies ⊆ otherBodies t s p,
    (nearestLeft t s bodies p).map (fun u => spotAt p u.1 u.2) = (home t s p).map fun u =>
    spotAt p u.1 u.2) :
    Uncrowded t s := by
  -- The place that is nearest is at the spot of home.
  have hlands : ∀ p ∈ s.players, elapsed p = true → ∀ u ∈ home t s p, ∀ bodies ⊆ otherBodies t s p,
      ∃ c f, nearestLeft t s bodies p = some (c, f) ∧ spotAt p c f = spotAt p u.1 u.2 := by
    intro p hp hdue u hu bodies hbodies
    have hsame := h p hp hdue bodies hbodies
    rw [Option.mem_def.1 hu, Option.map_some] at hsame
    obtain ⟨⟨c, f⟩, hnearest, hspot⟩ := Option.map_eq_some_iff.1 hsame
    exact ⟨c, f, hnearest, hspot⟩
  have haccepted : ∀ {p}, ∀ u ∈ home t s p, accepts t s p u.1 u.2 = true := fun u hu =>
    (firstLeft_iff.1 (nearestLeft_some (Option.mem_def.1 hu)).2.1).2.1.1
  refine ⟨fun p hp hdue u hu q hq => ?_, fun p hp hdue u hu b hb e he haccepts hnearer => ?_,
    fun p hp hdue u hu b hb e he htie hne hprecedes bodies hbodies hfirst => ?_⟩
  · obtain ⟨c, f, hnearest, hspot⟩ :=
      hlands p hp hdue u hu [q] (List.cons_subset.2 ⟨hq, List.nil_subset _⟩)
    obtain ⟨-, hfirst, -⟩ := nearestLeft_some hnearest
    obtain ⟨-, ⟨haccepts, hclear⟩, -⟩ := firstLeft_iff.1 hfirst
    rw [← standsClear_spot haccepts (haccepted u hu) hspot]
    exact hclear q List.mem_cons_self
  · by_contra hno
    -- The bodies that leave the place clear take every place before it.
    have hfirst : firstLeft t s ((otherBodies t s p).filter (standsClear p b e)) p b = some e := by
      refine firstLeft_iff.2 ⟨he, ⟨haccepts, fun q hq => (List.mem_filter.1 hq).2⟩,
        fun f hf hopen => ?_⟩
      by_contra hnone
      refine hno ⟨f, hf, hopen, fun q hq hstands => ?_⟩
      cases hclear : standsClear p b e q with
      | false => rfl
      | true => exact absurd ⟨q, List.mem_filter.2 ⟨hq, hclear⟩, hstands⟩ hnone
    obtain ⟨c, f, hnearest, hspot⟩ := hlands p hp hdue u hu _ (List.filter_subset_self _)
    obtain ⟨-, -, hleast⟩ := nearestLeft_some hnearest
    exact hleast b hb e hfirst (.inl (lt_of_lt_of_eq hnearer (distanceTo_spot hspot).symm))
  · obtain ⟨c, f, hnearest, hspot⟩ := hlands p hp hdue u hu bodies hbodies
    obtain ⟨hc, hf, hleast⟩ := nearestLeft_some hnearest
    have hid : c.id ≠ b.id := fun heq => by
      obtain rfl : c = b := List.inj_on_of_nodup_map (anchorsOf_ids hids) hc hb heq
      rw [hfirst] at hf
      cases hf
      exact hne hspot
    exact ⟨c, hc, f, hf, hspot, (precedes_total s hid).resolve_right fun hother =>
      hleast b hb e hfirst (.inr ⟨htie.trans (distanceTo_spot hspot).symm, hother⟩)⟩

end Homes

/-- Bubbles that return in one frame land wherever the players stand in the array exactly when they
are out of each other's way. -/
theorem safe_recovery_order (t : CoopTerrain) {s : CoopSession}
    (hids : (s.players.map CoopPlayer.id).Nodup)
    (hnobody : COOP_NO_PLAYER ∉ s.players.map CoopPlayer.id) :
    (∀ ps : List CoopPlayer, ps.Perm s.players → ∀ id,
      whereabouts (coopSessionRecover { s with players := ps } (safeRecovery t)).2 id =
        whereabouts (coopSessionRecover s (safeRecovery t)).2 id) ↔
    (s.advancing = true → s.outcome = .is .continue → granted s = true → Uncrowded t s) := by
  rw [safeRecovery_query, order_free_iff hids hnobody]
  have hsame : Undisturbed s (terrainQuery t) ↔ Uncrowded t s := by
    rw [undisturbed_homes hids]
    exact ⟨uncrowded_of_lands hids, fun h _ hp hdue _ hbodies => h.lands hids hp hdue hbodies⟩
  rw [hsame]

/-- A bubble beside `tallAnchor`. -/
def fallen (id : CoopPlayerId) : CoopPlayer :=
  { CoopTerrain.smallBubble with id := id, x := 100, y := 100, halfWidth := 6, height := 12 }

/-- One survivor, and two bubbles that are due. -/
def twoFallen : CoopSession :=
  { (default : CoopSession) with
    players := [{ CoopTerrain.tallAnchor with halfWidth := 6 }, fallen 2, fallen 3]
    primary := 1
    advancing := true }

/-- Two survivors, each with a bubble that is due on the far side of it. -/
def twoApart : CoopSession :=
  { twoFallen with
    players :=
      [{ CoopTerrain.tallAnchor with x := 60, halfWidth := 6 }, { fallen 2 with x := 30 },
        { fallen 3 with x := 230 },
        { CoopTerrain.tallAnchor with id := 4, x := 160, halfWidth := 6 }] }

/-- The first has a place that is nearer to it than its home, on the other side of the same
survivor. -/
theorem safe_recovery_order_twoApart :
    (∀ ps : List CoopPlayer, ps.Perm twoApart.players → ∀ id,
      whereabouts
          (coopSessionRecover { twoApart with players := ps } (safeRecovery CoopTerrain.openRoom)).2
          id =
        whereabouts (coopSessionRecover twoApart (safeRecovery CoopTerrain.openRoom)).2 id) ∧
    whereabouts (coopSessionRecover twoApart (safeRecovery CoopTerrain.openRoom)).2 2 =
      some (.is .playing, 84, 154) ∧
    whereabouts (coopSessionRecover twoApart (safeRecovery CoopTerrain.openRoom)).2 3 =
      some (.is .playing, 184, 154) := by
  have huntied : ∀ p ∈ twoApart.players, elapsed p = true →
    ∀ u ∈ home CoopTerrain.openRoom twoApart p,
      ∀ b ∈ anchorsOf twoApart.players, ∀ e ∈ CoopTerrain.offsets, distanceTo p b e =
        distanceTo p u.1 u.2 →
      spotAt p b e = spotAt p u.1 u.2 := by decide +kernel
  refine ⟨(safe_recovery_order CoopTerrain.openRoom (by decide) (by decide)).2 fun _ _ _ =>
    ⟨by decide +kernel, by decide +kernel, fun p hp hdue u hu b hb e he htie hne => ?_⟩, by
      decide +kernel, by decide +kernel⟩
  exact absurd (huntied p hp hdue u hu b hb e he htie) hne

/-- The one that is asked about first has the place to the right of the survivor, and the other the
place to its left. -/
theorem first_come_first_served :
    ¬ ∀ (t : CoopTerrain) (s : CoopSession), (s.players.map CoopPlayer.id).Nodup →
    COOP_NO_PLAYER ∉ s.players.map CoopPlayer.id → ∀ ps : List CoopPlayer, ps.Perm s.players → ∀ id,
      whereabouts (coopSessionRecover { s with players := ps } (safeRecovery t)).2 id =
        whereabouts (coopSessionRecover s (safeRecovery t)).2 id := by
  intro h
  have hswap := h CoopTerrain.openRoom twoFallen (by decide) (by decide)
    [{ CoopTerrain.tallAnchor with halfWidth := 6 }, fallen 3, fallen 2] (.cons _ (.swap _ _ _)) 2
  revert hswap
  decide +kernel

end SmwRecomp.Coop
