import SmwRecomp.Coop.Camera
import SmwRecomp.Coop.Order
import Mathlib.Logic.Equiv.Basic

/-!
# Separation and storage order

* `separate`, `separateAll`, `bubbled` — what one check does to one player, to all of them, and whom
  it bubbles; `separationLoop_eq`: the loop of `coop_camera_check_separation`.
* `OrderFree` — the states on which the order of the players array does not matter: two players in
  play are left over, or the one left over has nothing to lose.
* `orderly_of_orderFree` — there the loop is a map and a filter.
* `separation_order_free` — exactly there the check is independent of storage order.
-/

set_option autoImplicit false

namespace SmwRecomp.Coop

/-! ## One check -/

/-- In play, outside the frame, and not the leader. -/
def Strayed (c : CoopCamera) (p : CoopPlayer) : Prop :=
  p.life = .is .playing ∧ outsideFrame c p = true ∧ p.id ≠ c.leader

instance (c : CoopCamera) (p : CoopPlayer) : Decidable (Strayed c p) :=
  inferInstanceAs (Decidable (_ ∧ _))

/-- Strayed, and this check brings the timer to its limit. -/
def Due (c : CoopCamera) (ticks : UInt32) (p : CoopPlayer) : Prop :=
  Strayed c p ∧ ¬ p.separationTicks + 1 < ticks

instance (c : CoopCamera) (ticks : UInt32) (p : CoopPlayer) : Decidable (Due c ticks p) :=
  inferInstanceAs (Decidable (_ ∧ _))

/-- The record of a player that a check has bubbled. -/
def caughtUp (ticks : UInt32) (p : CoopPlayer) : CoopPlayer :=
  { p with
    heldObject := COOP_NO_ENTITY, life := .is .catchupBubble, recoveryTicks :=
      ticks / 2, separationTicks := 0 }

/-- The record that a check leaves, with `active` players still in play. -/
def separate (c : CoopCamera) (ticks : UInt32) (resized : Bool) (active : Nat)
    (p : CoopPlayer) : CoopPlayer :=
  if p.life ≠ .is .playing then p
  else if ¬ Strayed c p ∨ active ≤ 1 then rested p
  else if resized = true then p
  else if Due c ticks p then caughtUp ticks p
  else { p with separationTicks := p.separationTicks + 1 }

/-- Whether the check bubbles the player. -/
def Bubbles (c : CoopCamera) (ticks : UInt32) (resized : Bool) (active : Nat)
    (p : CoopPlayer) : Prop :=
  Due c ticks p ∧ 1 < active ∧ resized = false

instance (c : CoopCamera) (ticks : UInt32) (resized : Bool) (active : Nat) (p : CoopPlayer) :
    Decidable (Bubbles c ticks resized active p) := inferInstanceAs (Decidable (_ ∧ _))

/-- The players that a check bubbles, in storage order. -/
def bubbled (c : CoopCamera) (ticks : UInt32) (resized : Bool) : Nat → List CoopPlayer →
    List CoopPlayer
  | _, [] => []
  | active, p :: ps =>
    if Bubbles c ticks resized active p then p :: bubbled c ticks resized (active - 1) ps
    else bubbled c ticks resized active ps

/-- The records that a check leaves, in storage order. -/
def separateAll (c : CoopCamera) (ticks : UInt32) (resized : Bool) : Nat → List CoopPlayer →
    List CoopPlayer
  | _, [] => []
  | active, p :: ps =>
    separate c ticks resized active p ::
      separateAll c ticks resized (if Bubbles c ticks resized active p then active - 1
        else active) ps

section Check

variable {c : CoopCamera} {ticks : UInt32} {resized : Bool} {active : Nat} {p : CoopPlayer}
  {ps qs : List CoopPlayer}

@[simp] theorem dropHeld_camera (s : CoopSession) (p : CoopPlayer) :
    (dropHeld s p).camera = s.camera := by
  unfold dropHeld
  split
  · exact emit_camera
  · rfl

@[simp] theorem dropHeld_ticks (s : CoopSession) (p : CoopPlayer) :
    (dropHeld s p).ticksPerSecond = s.ticksPerSecond := by
  unfold dropHeld
  split
  · exact emit_ticksPerSecond
  · rfl

/-- The loop of `coop_camera_check_separation`, its emissions apart from its records. -/
theorem separationLoop_eq (resized : Bool) (ps : List CoopPlayer) :
    ∀ (s : CoopSession) (active : Nat),
    separationLoop resized s active ps =
      ((bubbled s.camera s.ticksPerSecond resized active ps).foldl dropHeld s,
        separateAll s.camera s.ticksPerSecond resized active ps) := by
  induction ps with
  | nil =>
      intro s active
      rfl
  | cons p ps ih =>
      intro s active
      unfold separationLoop bubbled separateAll separate
      dsimp only
      by_cases hlife : p.life = .is .playing
      · by_cases hstrayed : Strayed s.camera p ∧ 1 < active
        · obtain ⟨⟨-, houtside, hleader⟩, hactive⟩ := hstrayed
          have hstrayed : Strayed s.camera p := ⟨hlife, houtside, hleader⟩
          have hplaying : ¬ p.life ≠ .is .playing := by simp [hlife]
          have hguard : ¬ ((!outsideFrame s.camera p) = true ∨ p.id = s.camera.leader ∨
            active ≤ 1) := by
            simp only [houtside, hleader, Bool.not_true, Bool.false_eq_true, false_or]
            omega
          have hlost : ¬ (¬ Strayed s.camera p ∨ active ≤ 1) := by
            rintro (h | h)
            · exact h hstrayed
            · omega
          rw [if_neg hplaying, if_neg hguard, if_neg hplaying, if_neg hlost]
          cases resized with
          | true =>
              have hnone : ¬ Bubbles s.camera s.ticksPerSecond true active p :=
                fun h => Bool.noConfusion h.2.2
              rw [if_pos rfl, if_pos rfl, if_neg hnone, if_neg hnone, ih]
          | false =>
              rw [if_neg Bool.false_ne_true, if_neg Bool.false_ne_true]
              by_cases hticks : p.separationTicks + 1 < s.ticksPerSecond
              · have hpatient : ¬ Due s.camera s.ticksPerSecond p := fun h => h.2 hticks
                have hnone : ¬ Bubbles s.camera s.ticksPerSecond false active p :=
                  fun h => hpatient h.1
                rw [if_pos hticks, if_neg hnone, if_neg hpatient, if_neg hnone, ih]
              · have hdue : Due s.camera s.ticksPerSecond p := ⟨hstrayed, hticks⟩
                have hbubbles : Bubbles s.camera s.ticksPerSecond false active p :=
                  ⟨hdue, hactive, rfl⟩
                rw [if_neg hticks, if_pos hbubbles, if_pos hdue, if_pos hbubbles, ih,
                  dropHeld_camera, dropHeld_ticks]
                rfl
        · have hnone : ¬ Bubbles s.camera s.ticksPerSecond resized active p :=
            fun h => hstrayed ⟨h.1.1, h.2.1⟩
          have hsettled : ¬ Strayed s.camera p ∨ active ≤ 1 := by
            by_cases h : Strayed s.camera p
            · exact Or.inr (Nat.le_of_not_lt fun ha => hstrayed ⟨h, ha⟩)
            · exact Or.inl h
          have hguard : (!outsideFrame s.camera p) = true ∨ p.id = s.camera.leader ∨
            active ≤ 1 := by
            by_cases houtside : outsideFrame s.camera p = true
            · by_cases hleader : p.id = s.camera.leader
              · exact Or.inr (Or.inl hleader)
              · exact Or.inr (Or.inr (hsettled.resolve_left fun h => h ⟨hlife, houtside, hleader⟩))
            · left
              simpa using houtside
          rw [if_neg (by simp [hlife]), if_pos hguard, if_neg hnone, if_neg (by simp [hlife]),
            if_pos hsettled, if_neg hnone, ih]
          rfl
      · have hnone : ¬ Bubbles s.camera s.ticksPerSecond resized active p := fun h => hlife h.1.1.1
        rw [if_pos hlife, if_neg hnone, if_pos hlife, if_neg hnone, ih]

theorem bubbled_cons (p : CoopPlayer) (ps : List CoopPlayer) :
    bubbled c ticks resized active (p :: ps) =
    if Bubbles c ticks resized active p then p :: bubbled c ticks resized (active - 1) ps
    else bubbled c ticks resized active ps := rfl

theorem separateAll_cons (p : CoopPlayer) (ps : List CoopPlayer) :
    separateAll c ticks resized active (p :: ps) =
    separate c ticks resized active p ::
      separateAll c ticks resized (if Bubbles c ticks resized active p then active - 1
        else active) ps := rfl

theorem separateAll_append (ps qs : List CoopPlayer) :
    ∀ active, separateAll c ticks resized active (ps ++ qs) =
    separateAll c ticks resized active ps ++
      separateAll c ticks resized (active - (bubbled c ticks resized active ps).length) qs := by
  induction ps with
  | nil =>
      intro active
      rfl
  | cons p ps ih =>
      intro active
      rw [List.cons_append, separateAll_cons, separateAll_cons, bubbled_cons]
      split
      · rw [ih, List.cons_append, List.length_cons, Nat.add_comm, Nat.sub_add_eq]
      · rw [ih, List.cons_append]

/-- With more players in play than are due, everyone due is bubbled. -/
theorem bubbled_eq_filter (ps : List CoopPlayer) :
    ∀ active, ps.countP (fun p => decide (Due c ticks p)) < active →
    bubbled c ticks false active ps = ps.filter fun p => decide (Due c ticks p) := by
  induction ps with
  | nil =>
      intro active _
      rfl
  | cons p ps ih =>
      intro active hcount
      rw [List.countP_cons] at hcount
      rw [bubbled_cons]
      by_cases hdue : Due c ticks p
      · rw [if_pos (show decide (Due c ticks p) = true by simp [hdue])] at hcount
        rw [if_pos ⟨hdue, by omega, rfl⟩, List.filter_cons_of_pos (by simp [hdue]), ih _ (by omega)]
      · rw [if_neg (show ¬ decide (Due c ticks p) = true by simp [hdue])] at hcount
        rw [if_neg fun h => hdue h.1, List.filter_cons_of_neg (by simp [hdue]), ih _ (by omega)]

/-- A player whose record comes out the same whether or not others are still in play. -/
def Indifferent (c : CoopCamera) (ticks : UInt32) (p : CoopPlayer) : Prop :=
  Strayed c p → Due c ticks p ∨ p.separationTicks + 1 = 0

instance (c : CoopCamera) (ticks : UInt32) (p : CoopPlayer) : Decidable (Indifferent c ticks p) :=
  inferInstanceAs (Decidable (_ → _))

/-- The count does not matter to a player while two are in play. -/
theorem separate_plenty (h : 2 ≤ active) :
    separate c ticks resized active p = separate c ticks resized 2 p := by
  have hactive : (¬ Strayed c p ∨ active ≤ 1) ↔ (¬ Strayed c p ∨ 2 ≤ 1) := by
    constructor
    · exact fun hs => hs.imp_right fun _ => by omega
    · exact fun hs => hs.imp_right fun _ => by omega
  unfold separate
  rw [if_congr hactive rfl rfl]

/-- It never matters to a player that has nothing to lose. -/
theorem separate_indifferent (h : Indifferent c ticks p) (hdue : ¬ Due c ticks p) :
    separate c ticks false active p = separate c ticks false 2 p := by
  unfold separate
  by_cases hlife : p.life ≠ .is .playing
  · rw [if_pos hlife, if_pos hlife]
  · by_cases hstrayed : Strayed c p
    · have hwrapped := (h hstrayed).resolve_left hdue
      have hrested : { p with separationTicks := p.separationTicks + 1 } = rested p := by
        rw [hwrapped]
        rfl
      rw [if_neg hlife, if_neg hlife, if_neg Bool.false_ne_true, if_neg hdue, hrested,
        ite_self, ite_self]
    · rw [if_neg hlife, if_neg hlife, if_pos (Or.inl hstrayed), if_pos (Or.inl hstrayed)]

theorem separateAll_eq_map (ps : List CoopPlayer) :
    ∀ active, ps.countP (fun p => decide (Due c ticks p)) < active →
    (ps.countP (fun p => decide (Due c ticks p)) + 2 ≤ active ∨ ∀ p ∈ ps, Indifferent c ticks p) →
    separateAll c ticks false active ps = ps.map (separate c ticks false 2) := by
  induction ps with
  | nil =>
      intro active _ _
      rfl
  | cons p ps ih =>
      intro active hcount hleft
      rw [List.countP_cons] at hcount hleft
      rw [List.forall_mem_cons] at hleft
      rw [separateAll_cons, List.map_cons]
      by_cases hdue : Due c ticks p
      · have hone : (if decide (Due c ticks p) = true then 1 else 0) = 1 := if_pos (by simp [hdue])
        rw [hone] at hcount hleft
        rw [if_pos ⟨hdue, by omega, rfl⟩, separate_plenty (by omega), ih _ (by omega)]
        rcases hleft with hleft | hleft
        · exact Or.inl (by omega)
        · exact Or.inr hleft.2
      · have hnone : (if decide (Due c ticks p) = true then 1 else 0) = 0 := if_neg (by simp [hdue])
        rw [hnone] at hcount hleft
        rw [if_neg fun h => hdue h.1, ih _ (by omega)]
        · congr 1
          rcases hleft with hleft | hleft
          · exact separate_plenty (by omega)
          · exact separate_indifferent hleft.1 hdue
        · rcases hleft with hleft | hleft
          · exact Or.inl (by omega)
          · exact Or.inr hleft.2

/-- Where nobody can be bubbled the count stays, and every record is for itself. -/
theorem separateAll_quiet (hquiet : resized = true ∨ active ≤ 1 ∨ ∀ p ∈ ps, ¬ Due c ticks p) :
    bubbled c ticks resized active ps = [] ∧
      separateAll c ticks resized active ps = ps.map (separate c ticks resized active) := by
  induction ps with
  | nil => exact ⟨rfl, rfl⟩
  | cons p ps ih =>
      rw [List.forall_mem_cons] at hquiet
      have hnone : ¬ Bubbles c ticks resized active p := by
        rintro ⟨hdue, hactive, hresized⟩
        rcases hquiet with h | h | h
        · rw [hresized] at h
          cases h
        · omega
        · exact h.1 hdue
      obtain ⟨hbubbled, hrecords⟩ := ih (hquiet.imp_right fun h => h.imp_right fun h => h.2)
      rw [bubbled_cons, separateAll_cons, if_neg hnone, if_neg hnone, hbubbled, hrecords]
      exact ⟨rfl, rfl⟩

end Check

/-! ## The drops of a check -/

/-- What is left of a list under a list of verdicts. -/
def recorded {α : Type} : List Bool → List α → List α
  | b :: bs, a :: as => if b = true then a :: recorded bs as else recorded bs as
  | _, _ => []

section Recorded

variable {α : Type} {bs : List Bool} {as : List α}

theorem mem_recorded {a : α} : a ∈ recorded bs as ↔ ∃ i : Nat, bs[i]? = some true ∧
    as[i]? = some a := by
  induction bs generalizing as with
  | nil =>
      constructor
      · intro h
        cases h
      · rintro ⟨i, hi, -⟩
        simp at hi
  | cons b bs ih =>
      cases as with
      | nil =>
          constructor
          · intro h
            cases h
          · rintro ⟨i, -, hi⟩
            simp at hi
      | cons x as =>
          have hrest : a ∈ recorded bs as ↔ ∃ i : Nat, (b :: bs)[i + 1]? = some true ∧
            (x :: as)[i + 1]? = some a := by
            simp only [List.getElem?_cons_succ]
            exact ih
          unfold recorded
          constructor
          · intro h
            split at h
            · rename_i hb
              rcases List.mem_cons.1 h with rfl | h
              · exact ⟨0, by simp [hb], rfl⟩
              · obtain ⟨i, hi⟩ := hrest.1 h
                exact ⟨i + 1, hi⟩
            · obtain ⟨i, hi⟩ := hrest.1 h
              exact ⟨i + 1, hi⟩
          · rintro ⟨i, hi, ha⟩
            cases i with
            | zero =>
                simp only [List.getElem?_cons_zero, Option.some.injEq] at hi ha
                rw [if_pos hi, ha]
                exact List.mem_cons_self
            | succ i =>
                have h := hrest.2 ⟨i, hi, ha⟩
                split
                · exact List.mem_cons_of_mem _ h
                · exact h

/-- All or nothing. -/
theorem recorded_uniform {b : Bool} (h : ∀ v ∈ bs, v = b) (hlen : bs.length = as.length) :
    recorded bs as = if b = true then as else [] := by
  induction bs generalizing as with
  | nil =>
      rw [List.length_nil] at hlen
      rw [List.length_eq_zero_iff.1 hlen.symm, ite_self]
      rfl
  | cons v bs ih =>
      cases as with
      | nil => cases hlen
      | cons a as =>
          rw [List.forall_mem_cons] at h
          rw [List.length_cons, List.length_cons, Nat.add_right_cancel_iff] at hlen
          unfold recorded
          rw [h.1, ih h.2 hlen]
          split
          · rfl
          · rfl

end Recorded

/-- Whether the next emission finds room. -/
def takes (s : CoopSession) : Bool :=
  decide (s.actions.length ≠ SIZE_MAX) &&
    (grow s.allocator s.actionCapacity (s.actions.length + 1) sizeofCoopAction).1.isSome

/-- Which of the next `n` emissions find room. -/
def grants : Nat → CoopSession → List Bool
  | 0, _ => []
  | n + 1, s => takes s :: grants n (emit s .dropObject 0 0 0)

/-- The action of a player that lets go of what it holds. -/
def letGo (p : CoopPlayer) : CoopAction := ⟨.is .dropObject, p.id, p.heldObject, 0⟩

def holding (p : CoopPlayer) : Bool := decide (p.heldObject ≠ COOP_NO_ENTITY)

/-- The same room for further actions. -/
def SameRoom (s t : CoopSession) : Prop :=
  s.actions.length = t.actions.length ∧ s.actionCapacity = t.actionCapacity ∧
    s.allocator = t.allocator

section Drops

variable {s t : CoopSession}

theorem emit_takes (s : CoopSession) (kind : CoopActionKind) (player : CoopPlayerId)
    (entity : CoopEntityId)
    (value : UInt32) : (emit s kind player entity value).actions =
      if takes s = true then s.actions ++ [⟨.is kind, player, entity, value⟩] else s.actions := by
  unfold emit takes
  by_cases hmax : s.actions.length = SIZE_MAX
  · rw [if_pos hmax, if_neg (by simp [hmax])]
  · rw [if_neg hmax]
    rcases hgrow : grow s.allocator s.actionCapacity (s.actions.length + 1) sizeofCoopAction
      with ⟨room, rest⟩
    cases room with
    | none => rw [if_neg (by simp)]
    | some capacity => rw [if_pos (by simp [hmax])]

theorem SameRoom.takes (h : SameRoom s t) : takes s = takes t := by
  obtain ⟨hlength, hcapacity, hallocator⟩ := h
  unfold SmwRecomp.Coop.takes
  rw [hlength, hcapacity, hallocator]

theorem SameRoom.emit (h : SameRoom s t) (kind kind' : CoopActionKind)
    (player player' : CoopPlayerId)
    (entity entity' : CoopEntityId) (value value' : UInt32) :
    SameRoom (emit s kind player entity value) (emit t kind' player' entity' value') := by
  obtain ⟨hlength, hcapacity, hallocator⟩ := h
  unfold SmwRecomp.Coop.emit
  rw [hlength, hcapacity, hallocator]
  split
  · exact ⟨hlength, rfl, rfl⟩
  · split
    · exact ⟨hlength, rfl, rfl⟩
    · refine ⟨?_, rfl, rfl⟩
      rw [List.length_append, List.length_append, hlength]
      rfl

theorem SameRoom.grants (n : Nat) : ∀ {s t : CoopSession}, SameRoom s t →
    grants n s = grants n t := by
  induction n with
  | zero =>
      intro s t _
      rfl
  | succ n ih =>
      intro s t h
      unfold SmwRecomp.Coop.grants
      rw [h.takes, ih (h.emit .dropObject .dropObject 0 0 0 0 0 0)]

theorem grants_length (n : Nat) : ∀ s : CoopSession, (grants n s).length = n := by
  induction n with
  | zero =>
      intro s
      rfl
  | succ n ih =>
      intro s
      unfold grants
      rw [List.length_cons, ih]

/-- What is recorded of the drops of a list of players. -/
theorem foldl_dropHeld_actions (ps : List CoopPlayer) :
    ∀ s : CoopSession, (ps.foldl dropHeld s).actions =
    s.actions ++ recorded (grants (ps.filter holding).length s)
      ((ps.filter holding).map letGo) := by
  induction ps with
  | nil =>
      intro s
      exact (List.append_nil _).symm
  | cons p ps ih =>
      intro s
      rw [List.foldl_cons, ih]
      unfold dropHeld
      by_cases hheld : p.heldObject ≠ COOP_NO_ENTITY
      · have hroom : SameRoom (emit s .dropObject p.id p.heldObject 0) (emit s .dropObject 0 0 0) :=
          SameRoom.emit ⟨rfl, rfl, rfl⟩ _ _ _ _ _ _ _ _
        rw [if_pos hheld, List.filter_cons_of_pos (by simp [holding, hheld]), List.length_cons,
          List.map_cons, emit_takes, hroom.grants, grants, recorded]
        split
        · rw [List.append_assoc]
          rfl
        · rfl
      · rw [if_neg hheld, List.filter_cons_of_neg (by simp [holding, not_not.1 hheld])]

end Drops

/-! ## Where the order does not matter -/

/-- The players that have run out of time in this check. -/
def due (s : CoopSession) : List CoopPlayer :=
  s.players.filter fun p => decide (Due s.camera s.ticksPerSecond p)

/-- The drops of all the due players find room, or none of them does. -/
def DropsAlike (s : CoopSession) : Prop :=
  (∀ b ∈ grants ((due s).filter holding).length s, b = true) ∨
    ∀ b ∈ grants ((due s).filter holding).length s, b = false

/-- The check does nothing at all. -/
def Idle (s : CoopSession) : Prop :=
  s.failed = true ∨ s.advancing = false ∨ s.outcome ≠ .is .continue ∨ s.camera.autoscroll = true

/-- Nobody can be bubbled; or two players in play are left over, or the one left over has nothing to
lose. -/
def OrderFree (s : CoopSession) (resized : Bool) : Prop :=
  Idle s ∨ resized = true ∨ coopActiveCount s ≤ 1 ∨ due s = [] ∨
    ((due s).length + 2 ≤ coopActiveCount s ∨
      (due s).length + 1 = coopActiveCount s ∧ ∀ p ∈ s.players,
      Indifferent s.camera s.ticksPerSecond p) ∧
    DropsAlike s

/-- The player is in play before the check and in a bubble behind it. -/
def BubbledBy (s r : CoopSession) (id : CoopPlayerId) : Prop :=
  ∃ p q, coopPlayer s id = some p ∧ p.life = .is .playing ∧ coopPlayer r id = some q ∧
    q.life = .is .catchupBubble

/-- Two checks of one session agree on whom they bubble, what they emit and every record. -/
structure SameSeparation (s r r' : CoopSession) : Prop where
  bubbles : ∀ id, BubbledBy s r id ↔ BubbledBy s r' id
  actions : ∀ a, a ∈ r.actions.drop s.actions.length ↔ a ∈ r'.actions.drop s.actions.length
  records : ∀ id, coopPlayer r id = coopPlayer r' id

theorem SameSeparation.of_records {s r r' : CoopSession}
    (hactions : ∀ a, a ∈ r.actions.drop s.actions.length ↔ a ∈ r'.actions.drop s.actions.length)
    (hrecords : ∀ id, coopPlayer r id = coopPlayer r' id) : SameSeparation s r r' := by
  refine ⟨?_, hactions, hrecords⟩
  intro id
  unfold BubbledBy
  rw [hrecords]

section OrderFree

variable {s : CoopSession} {resized : Bool} {ps : List CoopPlayer}

/-- The session that the loop leaves. -/
def checked (s : CoopSession) (resized : Bool) : CoopSession :=
  { (bubbled s.camera s.ticksPerSecond resized (coopActiveCount s) s.players).foldl dropHeld s with
    players := separateAll s.camera s.ticksPerSecond resized (coopActiveCount s) s.players }

theorem check_idle (h : Idle s) : (coopCameraCheckSeparation s resized).2 = s := by
  unfold coopCameraCheckSeparation
  by_cases hfailed : s.failed = true
  · rw [if_pos hfailed]
  · rw [if_neg hfailed, if_pos]
    rcases h with h | h | h | h
    · exact absurd h hfailed
    · simp [h]
    · exact Or.inr (Or.inl h)
    · exact Or.inr (Or.inr h)

theorem check_checked (h : ¬ Idle s) :
    (coopCameraCheckSeparation s resized).2 = checked s resized := by
  unfold Idle at h
  simp only [not_or, Bool.not_eq_true, Bool.not_eq_false] at h
  obtain ⟨hfailed, hadvancing, houtcome, hstill⟩ := h
  unfold coopCameraCheckSeparation
  rw [if_neg (by simp [hfailed]), if_neg (by simp [hadvancing, hstill, not_not.1 houtcome]),
    separationLoop_eq]
  rfl

theorem separate_id {c : CoopCamera} {ticks : UInt32} (active : Nat) (p : CoopPlayer) :
    (separate c ticks resized active p).id = p.id := by
  unfold separate
  split
  · rfl
  · split
    · rfl
    · split
      · rfl
      · split
        · rfl
        · rfl

theorem separateAll_ids {c : CoopCamera} {ticks : UInt32} (ps : List CoopPlayer) : ∀ active,
    (separateAll c ticks resized active ps).map CoopPlayer.id = ps.map CoopPlayer.id := by
  induction ps with
  | nil =>
      intro active
      rfl
  | cons p ps ih =>
      intro active
      rw [separateAll_cons, List.map_cons, List.map_cons, separate_id, ih]

theorem checked_actions (s : CoopSession) (resized : Bool) :
    (checked s resized).actions.drop s.actions.length =
      let drops :=
        (bubbled s.camera s.ticksPerSecond resized (coopActiveCount s) s.players).filter holding
      recorded (grants drops.length s) (drops.map letGo) := by
  unfold checked
  dsimp only
  rw [foldl_dropHeld_actions, List.drop_left]

theorem rearranged_activeCount (hp : s.players.Perm ps) :
    coopActiveCount { s with players := ps } = coopActiveCount s :=
  (hp.countP_eq _).symm

theorem due_length (s : CoopSession) : (due s).length =
    s.players.countP fun p => decide (Due s.camera s.ticksPerSecond p) := by
  rw [due, List.countP_eq_length_filter]

/-- Everyone due is in play. -/
theorem due_le_active (s : CoopSession) : (due s).length ≤ coopActiveCount s := by
  rw [due_length]
  apply List.countP_mono_left
  intro p _ hdue
  rw [decide_eq_true_eq] at hdue ⊢
  exact hdue.1.1

/-- Where the order does not matter the check treats every player for itself, in any order. -/
theorem orderly_of_orderFree (hidle : ¬ Idle s) (h : OrderFree s resized) :
    ∃ (g : CoopPlayer → CoopPlayer) (P : CoopPlayer → Bool), (∀ p, (g p).id = p.id) ∧
      (∀ ps, s.players.Perm ps →
        separateAll s.camera s.ticksPerSecond resized (coopActiveCount s) ps = ps.map g ∧
        bubbled s.camera s.ticksPerSecond resized (coopActiveCount s) ps = ps.filter P) ∧
      ((∀ b ∈ grants ((s.players.filter P).filter holding).length s, b = true) ∨
        ∀ b ∈ grants ((s.players.filter P).filter holding).length s, b = false) := by
  have hquiet : (resized = true ∨ coopActiveCount s ≤ 1 ∨ due s = []) →
      ∀ ps, s.players.Perm ps →
        separateAll s.camera s.ticksPerSecond resized (coopActiveCount s) ps =
          ps.map (separate s.camera s.ticksPerSecond resized (coopActiveCount s)) ∧
        bubbled s.camera s.ticksPerSecond resized (coopActiveCount s) ps = ps.filter fun _ =>
        false := by
    intro hquiet ps hp
    have hnobody : resized = true ∨ coopActiveCount s ≤ 1 ∨
      ∀ p ∈ ps, ¬ Due s.camera s.ticksPerSecond p := by
      refine hquiet.imp_right fun h => h.imp_right fun hnone => ?_
      intro p hmem hdue
      have hmem : p ∈ due s := List.mem_filter.2 ⟨hp.mem_iff.2 hmem, decide_eq_true hdue⟩
      rw [hnone] at hmem
      cases hmem
    obtain ⟨hbubbled, hrecords⟩ := separateAll_quiet hnobody
    refine ⟨hrecords, ?_⟩
    rw [hbubbled, List.filter_false]
  have hnodrops : ∀ b ∈ grants ((s.players.filter fun _ => false).filter holding).length s,
    b = true := by
    rw [List.filter_false]
    exact fun _ h => nomatch h
  rcases h with h | h | h | h | ⟨hleft, hdrops⟩
  · exact absurd h hidle
  · exact ⟨_, _, separate_id _, hquiet (Or.inl h), Or.inl hnodrops⟩
  · exact ⟨_, _, separate_id _, hquiet (Or.inr (Or.inl h)), Or.inl hnodrops⟩
  · exact ⟨_, _, separate_id _, hquiet (Or.inr (Or.inr h)), Or.inl hnodrops⟩
  · by_cases hresized : resized = true
    · exact ⟨_, _, separate_id _, hquiet (Or.inl hresized), Or.inl hnodrops⟩
    · have hresized : resized = false := by simpa using hresized
      subst hresized
      refine ⟨separate s.camera s.ticksPerSecond false 2, _, separate_id 2, ?_, hdrops⟩
      intro ps hp
      have hcount : ps.countP (fun p => decide (Due s.camera s.ticksPerSecond p)) =
        (due s).length := by
        rw [due_length]
        exact (hp.countP_eq _).symm
      constructor
      · apply separateAll_eq_map
        · rw [hcount]
          omega
        · rw [hcount]
          rcases hleft with hleft | ⟨hleft, hall⟩
          · exact Or.inl hleft
          · exact Or.inr fun p hmem => hall p (hp.mem_iff.2 hmem)
      · apply bubbled_eq_filter
        rw [hcount]
        omega

/-- All of a list or nothing of it is recorded, in whatever order. -/
theorem recorded_perm {as as' : List CoopAction} {bs : List Bool} (hp : as.Perm as')
    (hlen : bs.length = as.length)
    (h : (∀ b ∈ bs, b = true) ∨ ∀ b ∈ bs, b = false) (a : CoopAction) :
    a ∈ recorded bs as ↔ a ∈ recorded bs as' := by
  rcases h with h | h
  · rw [recorded_uniform h hlen, recorded_uniform h (hlen.trans hp.length_eq), if_pos rfl,
      if_pos rfl, hp.mem_iff]
  · rw [recorded_uniform h hlen, recorded_uniform h (hlen.trans hp.length_eq),
      if_neg Bool.false_ne_true, if_neg Bool.false_ne_true]

theorem same_of_orderFree (hids : (s.players.map CoopPlayer.id).Nodup) (h : OrderFree s resized)
    (hp : s.players.Perm ps) :
    SameSeparation s (coopCameraCheckSeparation s resized).2
      (coopCameraCheckSeparation { s with players := ps } resized).2 := by
  have hlookup : ∀ id, findKey CoopPlayer.id id s.players = findKey CoopPlayer.id id ps :=
    findKey_perm hids hp
  by_cases hidle : Idle s
  · rw [check_idle hidle, check_idle (s := { s with players := ps }) hidle]
    exact SameSeparation.of_records (fun _ => Iff.rfl) hlookup
  · rw [check_checked hidle, check_checked (s := { s with players := ps }) hidle]
    obtain ⟨g, P, hg, hverdicts, hdrops⟩ := orderly_of_orderFree hidle h
    obtain ⟨hrecords, hbubbled⟩ := hverdicts s.players (List.Perm.refl _)
    obtain ⟨hrecords', hbubbled'⟩ := hverdicts ps hp
    apply SameSeparation.of_records
    · intro a
      have hstart : s.actions.length = ({ s with players := ps } : CoopSession).actions.length :=
        rfl
      rw [checked_actions, hstart, checked_actions, rearranged_activeCount hp]
      dsimp only
      rw [hbubbled, hbubbled']
      have hperm := (hp.filter P).filter holding
      have hroom : SameRoom s { s with players := ps } := ⟨rfl, rfl, rfl⟩
      rw [← hroom.grants, ← hperm.length_eq]
      apply recorded_perm (hperm.map letGo) _ hdrops
      rw [grants_length, List.length_map]
    · intro id
      show findKey _ _ (separateAll _ _ _ _ _) = findKey _ _ (separateAll _ _ _ _ _)
      rw [rearranged_activeCount hp, hrecords]
      show _ = findKey _ _ (separateAll s.camera s.ticksPerSecond resized (coopActiveCount s) ps)
      rw [hrecords', findKey_map hg, findKey_map hg, hlookup]

/-- The record that a check of the players in the order `ps` leaves for one of them. -/
theorem checked_record (hids : (s.players.map CoopPlayer.id).Nodup) (hp : s.players.Perm ps)
    {q : CoopPlayer}
    (hq : q ∈ separateAll s.camera s.ticksPerSecond resized (coopActiveCount s) ps) :
    coopPlayer (checked { s with players := ps } resized) q.id = some q := by
  show findKey _ _ (separateAll _ _ _ _ _) = _
  rw [rearranged_activeCount hp]
  apply findKey_of_mem _ hq
  rw [separateAll_ids]
  exact (hp.map CoopPlayer.id).nodup hids

theorem countP_erase {p : CoopPlayer} (hp : p ∈ s.players) :
    (s.players.erase p).countP (fun p => decide (Due s.camera s.ticksPerSecond p)) +
      (if Due s.camera s.ticksPerSecond p then 1 else 0) = (due s).length := by
  rw [due_length, (List.perm_cons_erase hp).countP_eq, List.countP_cons]
  simp only [decide_eq_true_eq]

/-- Two members of a list without repetition change places. -/
theorem perm_map_swap {α : Type} [DecidableEq α] {xs : List α} (hnodup : xs.Nodup) {x y : α}
    (hx : x ∈ xs) (hy : y ∈ xs) :
    xs.Perm (xs.map (Equiv.swap x y)) := by
  rw [List.perm_ext_iff_of_nodup hnodup (hnodup.map (Equiv.swap x y).injective)]
  intro p
  have himage : ∀ q ∈ xs, Equiv.swap x y q ∈ xs := by
    intro q hq
    rw [Equiv.swap_apply_def]
    split
    · exact hy
    · split
      · exact hx
      · exact hq
  constructor
  · intro hp
    exact List.mem_map.2 ⟨Equiv.swap x y p, himage p hp, Equiv.swap_apply_self x y p⟩
  · intro hp
    obtain ⟨q, hq, rfl⟩ := List.mem_map.1 hp
    exact himage q hq

theorem mem_holders {p : CoopPlayer} : p ∈ (due s).filter holding ↔
    p ∈ s.players ∧ holding p = true ∧ Due s.camera s.ticksPerSecond p := by
  unfold due
  rw [List.mem_filter, List.mem_filter, decide_eq_true_eq]
  tauto

/-- Two due players that hold something change places among the holders. -/
theorem holders_swap {x y : CoopPlayer} (hx : x ∈ (due s).filter holding)
    (hy : y ∈ (due s).filter holding) :
    ((s.players.map (Equiv.swap x y)).filter fun p =>
      decide (Due s.camera s.ticksPerSecond p)).filter holding =
      ((due s).filter holding).map (Equiv.swap x y) := by
  obtain ⟨-, hxholds, hxdue⟩ := mem_holders.1 hx
  obtain ⟨-, hyholds, hydue⟩ := mem_holders.1 hy
  have hfilter : (due s).filter holding =
      s.players.filter fun p => holding p && decide (Due s.camera s.ticksPerSecond p) :=
      List.filter_filter ..
  rw [hfilter, List.filter_filter, List.filter_map]
  congr 1
  apply List.filter_congr
  intro p _
  rw [Function.comp_apply, Equiv.swap_apply_def]
  split
  · rename_i hpx
    rw [hpx, hyholds, hxholds, decide_eq_true hydue, decide_eq_true hxdue]
  · split
    · rename_i hpy
      rw [hpy, hyholds, hxholds, decide_eq_true hydue, decide_eq_true hxdue]
    · rfl

/-- Each place of the record has its holder. -/
theorem holder_at {k : Nat} {v : Bool}
    (hk : (grants ((due s).filter holding).length s)[k]? = some v) :
    ∃ p, ((due s).filter holding)[k]? = some p := by
  obtain ⟨hk, -⟩ := List.getElem?_eq_some_iff.1 hk
  rw [grants_length] at hk
  exact ⟨_, List.getElem?_eq_getElem hk⟩

section Dependent

variable (hids : (s.players.map CoopPlayer.id).Nodup) (hidle : ¬ Idle s)
  (hsame : ∀ ps, s.players.Perm ps → SameSeparation s (coopCameraCheckSeparation s resized).2
    (coopCameraCheckSeparation { s with players := ps } resized).2)

include hids hidle hsame

/-- Where only one player in play is left over, it must not matter whether it comes first or last.
-/
theorem first_or_last (hresized : resized = false) {p : CoopPlayer} (hp : p ∈ s.players)
    (hlife : p.life = .is .playing)
    (hothers : (s.players.erase p).countP (fun p => decide (Due s.camera s.ticksPerSecond p)) + 1 =
      coopActiveCount s)
    (htwo : 2 ≤ coopActiveCount s) : separate s.camera s.ticksPerSecond false 2 p = rested p := by
  subst hresized
  have hfirst : s.players.Perm (p :: s.players.erase p) := List.perm_cons_erase hp
  have hlast : s.players.Perm (s.players.erase p ++ [p]) :=
    hfirst.trans (List.perm_append_singleton p _).symm
  -- first in the array, it is looked at with the others still in play
  have hrecord : coopPlayer (checked { s with players := p :: s.players.erase p } false) p.id =
      some (separate s.camera s.ticksPerSecond false 2 p) := by
    have hmem : separate s.camera s.ticksPerSecond false (coopActiveCount s) p ∈
        separateAll s.camera s.ticksPerSecond false (coopActiveCount s) (p :: s.players.erase p) :=
      List.mem_cons_self
    have hrecord := checked_record hids hfirst hmem
    rw [separate_id, separate_plenty htwo] at hrecord
    exact hrecord
  -- last, everyone else is in a bubble by then
  have hrecord' : coopPlayer (checked { s with players := s.players.erase p ++ [p] } false) p.id =
    some (rested p) := by
    have hbubbled := @bubbled_eq_filter s.camera s.ticksPerSecond (s.players.erase p)
      (coopActiveCount s) (by omega)
    have hleft : coopActiveCount s - (bubbled s.camera s.ticksPerSecond false (coopActiveCount s)
        (s.players.erase p)).length = 1 := by
      rw [hbubbled, ← List.countP_eq_length_filter]
      omega
    have halone : separate s.camera s.ticksPerSecond false 1 p = rested p := by
      unfold separate
      rw [if_neg (by simp [hlife]), if_pos (Or.inr (Nat.le_refl 1))]
    have hmem : rested p ∈ separateAll s.camera s.ticksPerSecond false (coopActiveCount s)
        (s.players.erase p ++ [p]) := by
      rw [separateAll_append, hleft, separateAll_cons, halone]
      exact List.mem_append_right _ List.mem_cons_self
    exact checked_record hids hlast hmem
  have hrecords := (hsame _ hfirst).records p.id
  have hrecords' := (hsame _ hlast).records p.id
  rw [check_checked hidle] at hrecords hrecords'
  rw [check_checked (s := { s with players := p :: s.players.erase p }) hidle, hrecord] at hrecords
  rw [check_checked (s := { s with players := s.players.erase p ++ [p] }) hidle, hrecord']
    at hrecords'
  exact Option.some_inj.1 (hrecords.symm.trans hrecords')

/-- Somebody who is not due is left over. -/
theorem due_lt_active (hresized : resized = false) (htwo : 2 ≤ coopActiveCount s)
    (hdue : due s ≠ []) :
    (due s).length < coopActiveCount s := by
  by_contra hall
  obtain ⟨p, hp⟩ := List.exists_mem_of_ne_nil _ hdue
  obtain ⟨hp, hd⟩ := List.mem_filter.1 hp
  have hd : Due s.camera s.ticksPerSecond p := of_decide_eq_true hd
  have hle := due_le_active s
  have hcount := countP_erase hp
  rw [if_pos hd] at hcount
  have hrested := first_or_last hids hidle hsame hresized hp hd.1.1 (by omega) htwo
  have hbubble : separate s.camera s.ticksPerSecond false 2 p = caughtUp s.ticksPerSecond p := by
    unfold separate
    rw [if_neg (by simp [hd.1.1]), if_neg (by simp [hd.1]), if_neg Bool.false_ne_true, if_pos hd]
  rw [hbubble] at hrested
  have hlife := congrArg CoopPlayer.life hrested
  change CEnum.is CoopLifeState.catchupBubble = p.life at hlife
  rw [hd.1.1] at hlife
  cases hlife

/-- If only one is left over, it has nothing to lose. -/
theorem indifferent_of_same (hresized : resized = false) (htwo : 2 ≤ coopActiveCount s)
    (hone : (due s).length + 1 = coopActiveCount s) {p : CoopPlayer} (hp : p ∈ s.players) :
    Indifferent s.camera s.ticksPerSecond p := by
  intro hstrayed
  by_cases hd : Due s.camera s.ticksPerSecond p
  · exact Or.inl hd
  · have hcount := countP_erase hp
    rw [if_neg hd] at hcount
    have hrested := first_or_last hids hidle hsame hresized hp hstrayed.1 (by omega) htwo
    have hticks : separate s.camera s.ticksPerSecond false 2 p =
        { p with separationTicks := p.separationTicks + 1 } := by
      unfold separate
      rw [if_neg (by simp [hstrayed.1]), if_neg (by simp [hstrayed]),
        if_neg Bool.false_ne_true, if_neg hd]
    rw [hticks] at hrested
    exact Or.inr (congrArg CoopPlayer.separationTicks hrested)

/-- Which drops are recorded is the same when two holders change places. -/
theorem recorded_swap (hleft : (due s).length < coopActiveCount s) (hresized : resized = false)
    {x y : CoopPlayer}
    (hx : x ∈ (due s).filter holding) (hy : y ∈ (due s).filter holding) (a : CoopAction) :
    a ∈ recorded (grants ((due s).filter holding).length s) (((due s).filter holding).map letGo) ↔
      a ∈ recorded (grants ((due s).filter holding).length s)
        ((((due s).filter holding).map (Equiv.swap x y)).map letGo) := by
  subst hresized
  have hperm := perm_map_swap (List.Nodup.of_map _ hids) (mem_holders.1 hx).1 (mem_holders.1 hy).1
  have hbubbled := @bubbled_eq_filter s.camera s.ticksPerSecond s.players (coopActiveCount s)
    (by rw [← due_length]; exact hleft)
  have hbubbled' := @bubbled_eq_filter s.camera s.ticksPerSecond (s.players.map (Equiv.swap x y))
    (coopActiveCount s) (by rw [← hperm.countP_eq, ← due_length]; exact hleft)
  have hactions := (hsame _ hperm).actions a
  have hstart : s.actions.length =
    ({ s with players := s.players.map (Equiv.swap x y) } : CoopSession).actions.length := rfl
  rw [check_checked hidle,
    check_checked (s := { s with players := s.players.map (Equiv.swap x y) }) hidle,
    checked_actions, hstart, checked_actions, rearranged_activeCount hperm] at hactions
  dsimp only at hactions
  rw [hbubbled, hbubbled', holders_swap hx hy] at hactions
  have hroom : SameRoom s { s with players := s.players.map (Equiv.swap x y) } := ⟨rfl, rfl, rfl⟩
  rw [← hroom.grants, List.length_map] at hactions
  exact hactions

/-- The drops of the due players are all recorded or all refused: else two of them could change
places. -/
theorem dropsAlike_of_same (hresized : resized = false)
    (hleft : (due s).length < coopActiveCount s) : DropsAlike s := by
  by_contra hmixed
  unfold DropsAlike at hmixed
  push Not at hmixed
  obtain ⟨⟨b, hb, hrefused⟩, b', hb', hgranted⟩ := hmixed
  have hrefused : b = false := by simpa using hrefused
  have hgranted : b' = true := by simpa using hgranted
  subst hrefused hgranted
  obtain ⟨j, hj⟩ := List.mem_iff_getElem?.1 hb
  obtain ⟨i, hi⟩ := List.mem_iff_getElem?.1 hb'
  -- the holder in the refused place, and the one in the granted place
  obtain ⟨y, hy⟩ := holder_at hj
  obtain ⟨x, hx⟩ := holder_at hi
  have hymem := List.mem_of_getElem? hy
  have hswap :=
    recorded_swap hids hidle hsame hleft hresized (List.mem_of_getElem? hx) hymem (letGo y)
  rw [mem_recorded, mem_recorded] at hswap
  obtain ⟨k, hk, hlet⟩ := hswap.2 ⟨i, hi, by rw [List.getElem?_map, List.getElem?_map, hx]; simp⟩
  -- only `y` itself lets go under its id, and its place is refused
  rw [List.getElem?_map] at hlet
  obtain ⟨z, hz, hlet⟩ := Option.map_eq_some_iff.1 hlet
  have hzy : z = y := by
    have hid : z.id = y.id := congrArg CoopAction.player hlet
    exact List.inj_on_of_nodup_map hids (mem_holders.1 (List.mem_of_getElem? hz)).1
      (mem_holders.1 hymem).1 hid
  rw [hzy] at hz
  have hnodup : ((due s).filter holding).Nodup := ((List.Nodup.of_map _ hids).filter _).filter _
  have hkj : k = j := by
    obtain ⟨hklt, -⟩ := List.getElem?_eq_some_iff.1 hz
    exact (List.getElem?_inj hklt hnodup).1 (hz.trans hy.symm)
  rw [hkj, hj] at hk
  cases hk

/-- **The order matters nowhere else.** -/
theorem orderFree_of_same : OrderFree s resized := by
  by_cases hresized : resized = true
  · exact Or.inr (Or.inl hresized)
  have hresized : resized = false := by simpa using hresized
  by_cases htwo : coopActiveCount s ≤ 1
  · exact Or.inr (Or.inr (Or.inl htwo))
  have htwo : 2 ≤ coopActiveCount s := by omega
  by_cases hdue : due s = []
  · exact Or.inr (Or.inr (Or.inr (Or.inl hdue)))
  have hleft := due_lt_active hids hidle hsame hresized htwo hdue
  refine Or.inr (Or.inr (Or.inr (Or.inr ⟨?_, dropsAlike_of_same hids hidle hsame hresized hleft⟩)))
  by_cases hone : (due s).length + 1 = coopActiveCount s
  · exact Or.inr ⟨hone, fun p hp => indifferent_of_same hids hidle hsame hresized htwo hone hp⟩
  · exact Or.inl (by omega)

end Dependent

end OrderFree

/-- **Separation and storage order.**  A check agrees with the same check after every permutation of
the players array, on whom it bubbles, what it emits and every record, exactly on the order-free
states. -/
theorem separation_order_free {s : CoopSession} (resized : Bool)
    (hids : (s.players.map CoopPlayer.id).Nodup) :
    (∀ ps, s.players.Perm ps → SameSeparation s (coopCameraCheckSeparation s resized).2
      (coopCameraCheckSeparation { s with players := ps } resized).2) ↔ OrderFree s resized := by
  constructor
  · intro hsame
    by_cases hidle : Idle s
    · exact Or.inl hidle
    · exact orderFree_of_same hids hidle hsame
  · exact fun h ps hp => same_of_orderFree hids h hp

/-- Two strayed players, both at their limit in this check, and no leader. -/
def strayedPair : CoopSession :=
  { pairSession with
    advancing := true
    camera := { pairSession.camera with x := 1000, width := 256, height := 224 }
    players := pairSession.players.map fun p => { p with separationTicks := 59 } }

theorem separation_order_free_pair :
    (∀ ps, strayedPair.players.Perm ps →
      SameSeparation strayedPair (coopCameraCheckSeparation strayedPair false).2
      (coopCameraCheckSeparation { strayedPair with players := ps } false).2) ↔
      OrderFree strayedPair false :=
  separation_order_free false (by decide)

/-- Whoever comes first in the array is bubbled. -/
theorem first_is_bubbled : strayedPair.players.Perm strayedPair.players.reverse ∧
    BubbledBy strayedPair (coopCameraCheckSeparation strayedPair false).2 0 ∧
    ¬ BubbledBy strayedPair
      (coopCameraCheckSeparation { strayedPair with players := strayedPair.players.reverse }
      false).2 0 := by
  refine ⟨(List.reverse_perm _).symm, ?_, ?_⟩
  · exact ⟨(coopPlayer strayedPair 0).get (by decide),
      (coopPlayer (coopCameraCheckSeparation strayedPair false).2 0).get (by decide),
      (Option.some_get _).symm, by decide, (Option.some_get _).symm, by decide⟩
  · rintro ⟨p, q, -, -, hq, hlife⟩
    have hplaying : ∀ q ∈ coopPlayer (coopCameraCheckSeparation
        { strayedPair with players := strayedPair.players.reverse } false).2 0,
        q.life = .is .playing := by decide
    rw [hplaying q hq] at hlife
    cases hlife

end SmwRecomp.Coop
