import SmwRecomp.Coop.MachineCodec
import SmwRecomp.Lib.Run

/-!
# The camera focus

`coop_machine_focus` over runs: where the focus can go, and what a load demands of it.

* `FocusCall.KeepsRoom` — a held step does not carry the focus over an edge.
* `focus_saved_and_loaded` — the focus stays where a load wants it iff every step keeps room.
* `held_focus_lost` — a held focus that leaves the world is saved, and the load refuses it.
-/

set_option autoImplicit false

namespace SmwRecomp.Coop

/-! ## One step -/

/-- The arguments of a `coop_machine_focus`. -/
structure FocusCall where
  x : Int32
  y : Int32
  active : UInt32

/-- Coordinates of the world, and between one and all players. -/
structure FocusCall.Admissible (c : FocusCall) (players : Nat) : Prop where
  x : coordinateValid c.x = true
  y : coordinateValid c.y = true
  active : 1 ≤ c.active.toNat ∧ c.active.toNat ≤ players

def FocusCall.step (m : CoopMachine) (c : FocusCall) (n : CoopMachine) : Prop :=
  c.Admissible m.session.players.length ∧ n = coopMachineFocus m c.x c.y c.active

/-- On one axis the group centre moves from `old` to `new`: `focus` is at least a step away from
the edge it is carried towards, or at least as far as the centre moves. -/
def RoomOnAxis (focus old new : Int) : Prop :=
  (4 ≤ focus ∨ -focus ≤ new - old) ∧ (focus ≤ 65531 ∨ new - old ≤ 65535 - focus)

instance (focus old new : Int) : Decidable (RoomOnAxis focus old new) := by
  unfold RoomOnAxis
  infer_instance

/-- A step under a hold that goes on has room on both axes. -/
def FocusCall.KeepsRoom (m : CoopMachine) (c : FocusCall) : Prop :=
  m.focusInitialized = true → c.active = m.focusCount → m.focusHold = true →
    RoomOnAxis m.focusX.toInt m.focusCenterX.toInt c.x.toInt ∧
    RoomOnAxis m.focusY.toInt m.focusCenterY.toInt c.y.toInt

instance (m : CoopMachine) (c : FocusCall) : Decidable (c.KeepsRoom m) := by
  unfold FocusCall.KeepsRoom
  infer_instance

theorem coordinateValid_iff {x : Int32} :
    coordinateValid x = true ↔ 0 ≤ x.toInt ∧ x.toInt ≤ 65535 := by
  simp [coordinateValid]

theorem focusStep_toInt (v : Int) : (focusStep v).toInt = max (-4) (min v 4) := by
  unfold focusStep
  split
  · rw [show (-4 : Int32).toInt = -4 from rfl]; omega
  split
  · rw [show (4 : Int32).toInt = 4 from rfl]; omega
  · have hsize : Int32.size = 4294967296 := rfl
    rw [Int32.toInt_ofInt, Int.bmod_eq_of_le (by omega) (by omega)]
    omega

/-- A coordinate in the world and a step do not wrap. -/
theorem add_focusStep {x : Int32} (hx : 0 ≤ x.toInt ∧ x.toInt ≤ 65535) (v : Int) :
    (x + focusStep v).toInt = x.toInt + max (-4) (min v 4) := by
  rw [Int32.toInt_add, focusStep_toInt, Int.bmod_eq_of_le (by omega) (by omega)]

/-- A free step goes towards the centre. -/
theorem freeAxis {focus new : Int32} (hf : coordinateValid focus = true)
    (hn : coordinateValid new = true) :
    coordinateValid (focus + focusStep (new.toInt - focus.toInt)) = true := by
  rw [coordinateValid_iff] at hf hn ⊢
  rw [add_focusStep hf]
  omega

theorem heldAxis_iff {focus old new : Int32} (hf : coordinateValid focus = true) :
    coordinateValid (focus + focusStep (new.toInt - old.toInt)) = true ↔
      RoomOnAxis focus.toInt old.toInt new.toInt := by
  rw [coordinateValid_iff] at hf
  rw [coordinateValid_iff, add_focusStep hf]
  unfold RoomOnAxis
  omega

theorem focusInRange_iff {m : CoopMachine} : FocusInRange m ↔ (coordinateValid m.focusX = true ∧
    coordinateValid m.focusY = true) ∧ coordinateValid m.focusCenterX = true ∧
    coordinateValid m.focusCenterY = true :=
  ⟨fun h => ⟨⟨h.x, h.y⟩, h.centerX, h.centerY⟩, fun h => ⟨h.1.1, h.1.2, h.2.1, h.2.2⟩⟩

/-- One call keeps the focus in the world iff it keeps room. -/
theorem focus_step_iff {m n : CoopMachine} {c : FocusCall} (h : c.step m n) (hm : FocusInRange m) :
    FocusInRange n ↔ c.KeepsRoom m := by
  obtain ⟨hc, rfl⟩ := h
  have hactive : c.active ≠ 0 := fun h0 => by
    have := hc.active.1
    rw [h0] at this
    exact absurd this (by decide)
  unfold coopMachineFocus FocusCall.KeepsRoom
  rw [if_neg hactive, focusInRange_iff]
  cases hinit : m.focusInitialized with
  | false => simp [hc.x, hc.y]
  | true =>
      by_cases hcount : c.active = m.focusCount
      · cases hhold : m.focusHold with
        | true => simp [hcount, hc.x, hc.y, heldAxis_iff hm.x, heldAxis_iff hm.y]
        | false => simp [hcount, hc.x, hc.y, freeAxis hm.x hc.x, freeAxis hm.y hc.y]
      · by_cases hless : c.active < m.focusCount
        · simp [hcount, hless, hc.x, hc.y, hm.x, hm.y]
        · simp [hcount, hless, hc.x, hc.y, freeAxis hm.x hc.x, freeAxis hm.y hc.y]

/-! ## Runs -/

/-- `n` differs from `m` only in the camera focus. -/
def SameButFocus (m n : CoopMachine) : Prop :=
  n = { m with
    focusX := n.focusX, focusY := n.focusY, focusCenterX := n.focusCenterX, focusCenterY :=
      n.focusCenterY
    focusCount := n.focusCount, focusInitialized := n.focusInitialized, focusHold := n.focusHold }

theorem coopMachineFocus_same (m : CoopMachine) (x y : Int32) (active : UInt32) :
    SameButFocus m (coopMachineFocus m x y active) := by
  unfold coopMachineFocus SameButFocus
  split
  · rfl
  · dsimp only
    split <;> rfl

theorem SameButFocus.trans {m n o : CoopMachine} (h : SameButFocus m n) (h' : SameButFocus n o) :
    SameButFocus m o := by
  unfold SameButFocus at h h' ⊢
  refine h'.trans ?_
  conv_lhs => rw [h]

/-- What a run of calls keeps of the machine it started from. -/
structure FocusRun (m₀ m : CoopMachine) : Prop where
  same : SameButFocus m₀ m
  count : m.focusCount.toNat ≤ m₀.session.players.length

theorem FocusRun.step {m₀ m n : CoopMachine} {c : FocusCall} (h : FocusRun m₀ m)
    (hstep : c.step m n) :
    FocusRun m₀ n := by
  obtain ⟨hc, rfl⟩ := hstep
  refine ⟨h.same.trans (coopMachineFocus_same m c.x c.y c.active), ?_⟩
  have hplayers : m.session = m₀.session := by rw [h.same]
  have hcount := hc.active
  rw [hplayers] at hcount
  unfold coopMachineFocus
  split
  · exact h.count
  · exact hcount.2

theorem FocusRun.savable {m₀ m : CoopMachine} (h : FocusRun m₀ m) (h₀ : Savable m₀) :
    Savable m := by
  have hcount := h.count
  have hsame := h.same
  unfold SameButFocus at hsame
  rw [hsame]
  exact ⟨h₀.session, h₀.players, h₀.actors, h₀.seats, h₀.bodies, h₀.fireballs, h₀.mounts,
    h₀.mode, hcount⟩

theorem FocusRun.valid {m₀ m : CoopMachine} (h : FocusRun m₀ m) :
    entitiesValid m = entitiesValid m₀ := by
  have hsame := h.same
  unfold SameButFocus at hsame
  rw [hsame]
  rfl

theorem FocusRun.compact {m₀ m : CoopMachine} (h : FocusRun m₀ m) (h₀ : Compact m₀) :
    Compact m := by
  have hsame := h.same
  unfold SameButFocus at hsame
  rw [hsame]
  exact ⟨h₀.session, h₀.sources, h₀.eggs⟩

/-! ## Loading -/

theorem answers_loadFocus {x m : CoopMachine} (hfocus : ¬ FocusInRange m)
    (hcount : m.focusCount.toNat ≤ x.actors.length) :
    Answers TRAILER (loadFocus x) (focusImage m) none := by
  have hlen := focusImage_length m
  unfold loadFocus
  refine Reads.need (by omega) ?_
  unfold focusImage
  refine Reads.tag <| Reads.word <| Reads.word <| Reads.word <| Reads.word <| Reads.word <|
    Reads.refuse (Nat.not_lt.2 hcount) <| Reads.flag <| Reads.flag ?_
  simp only [Int32.toInt32_toUInt32]
  refine (answers_refuse (k := 0) ?_).refused (Nat.zero_le _)
  by_contra hrange
  refine hfocus (focusInRange_iff.2 ?_)
  simpa [and_assoc] using hrange

/-- The loader refuses a focus out of range. -/
theorem readMachine_unfocused {m : CoopMachine} (h : Savable m) (hf : ¬ FocusInRange m)
    (hc : Compact m)
    (hv : EntitiesValid m) {allocator : Allocator} (hg : allocator.Granted) :
    readMachine (machineImage m) allocator = .error .refused := by
  obtain ⟨rest₁, hg₁, hroster⟩ := reads_loadRoster machineVersion
    (fun hold => absurd hold (by decide)) h hc hg
  obtain ⟨rest₂, -, hentities⟩ := reads_loadEntities machineVersion (m := m) (x := m.roster rest₁)
    hv.count hg₁
  have hcount : m.focusCount.toNat ≤ ((m.roster rest₁).takeEntities m rest₂).actors.length := by
    show _ ≤ (m.actors.map CoopActor.body).length
    rw [List.length_map, h.actors.length]
    exact h.focusCount
  have hfocusLength : focusTail machineVersion ≤ (focusImage m).length := (focusImage_length m).ge
  have hsince : ∀ {first : UInt32}, machineVersion ≥ first →
    ∀ load y, since first machineVersion load y = load y :=
    fun hfirst _ _ => if_pos hfirst
  have hread : Answers TRAILER (loadSections allocator) (machineBody m) none := by
    unfold loadSections machineBody sectionsImage
    refine (reads_loadHead (k := 0) supported_machineVersion h.mode).bind (Nat.zero_le _) ?_
    rw [← List.append_assoc]
    refine hroster.bind (Nat.le_add_left _ _) ?_
    rw [show (m.head machineVersion).version = machineVersion from rfl, hsince (by decide)]
    refine hentities.bind (by rw [List.length_append]; omega) ?_
    rw [hsince (by decide)]
    exact (answers_loadFocus hf hcount).refused (Nat.le_add_left _ _)
  have hbody : 64 ≤ (machineBody m).length := by
    rw [← oldBody_machineVersion]
    exact oldBody_length_le machineVersion m
  rw [machineImage, readMachine_sections hbody hread, Option.elim_none]

/-- A machine that could be saved and was saved is loaded exactly when its focus is in range. -/
theorem saved_is_loaded_iff {m : CoopMachine} (hm : Savable m) {allocator allocator' : Allocator}
    {data bytes : Bytes} (h : coopMachineSave m allocator data = .ok bytes)
    (hg : allocator'.Granted)
    (destination : CoopMachine) :
    (∃ t, coopMachineLoad destination (bytes.take (coopMachineSaveSize m)) allocator' =
      .ok (true, t)) ↔
      FocusInRange m := by
  obtain ⟨hsize, hdata, hvalid, -, -, hsave, -⟩ := coopMachineSave_ok h
  have hc := Compact.of_saveSize hm.players hsize
  have himage := coopMachineSave_image hm hc hvalid Allocator.granted_nil hdata
  rw [hsave] at himage
  cases himage
  rw [coopMachineSaveSize_image hm hc (entitiesValid_iff.1 hvalid).count, List.take_left,
    coopMachineLoad]
  constructor
  · rintro ⟨t, hload⟩
    by_contra hf
    rw [readMachine_unfocused hm hf hc (entitiesValid_iff.1 hvalid) hg] at hload
    cases hload
  · intro hf
    obtain ⟨rest, -, hload⟩ := readMachine_image hm hf hc hvalid hg
    exact ⟨m.restored rest, by rw [hload]; rfl⟩

/-- **The focus over a run.**  From a fresh machine, calls with coordinates in the world keep the
focus in the world in every state reached iff every held step keeps room; and a machine reached that
is saved is loaded again iff its focus is in the world. -/
theorem focus_saved_and_loaded {allocator : Allocator} {count : Nat} {m₀ m : CoopMachine}
    {steps : List (CoopMachine × FocusCall × CoopMachine)}
    (h₀ : coopMachineInit allocator count = some m₀)
    (hrun : Run FocusCall.step m₀ steps m) :
    ((∀ s ∈ steps, FocusInRange s.2.2) ↔ ∀ s ∈ steps, s.2.1.KeepsRoom s.1) ∧
    ((∀ s ∈ steps, s.2.1.KeepsRoom s.1) → FocusInRange m) ∧
    ∀ allocator data bytes, coopMachineSave m allocator data = .ok bytes →
      ∀ allocator', Allocator.Granted allocator' → ∀ destination,
        (∃ t, coopMachineLoad destination (bytes.take (coopMachineSaveSize m)) allocator' =
          .ok (true, t)) ↔
          FocusInRange m := by
  have hsavable := coopMachineInit_savable h₀
  have hfresh : FocusInRange m₀ := by
    obtain ⟨session, rest, -, rfl⟩ := coopMachineInit_some h₀
    exact ⟨rfl, rfl, rfl, rfl⟩
  have hiff := hrun.always_iff (C := fun m (c : FocusCall) => c.KeepsRoom m)
    (fun _ _ _ h hm => focus_step_iff h hm) hfresh
  have hfocus : FocusRun m₀ m :=
    hrun.invariant (fun _ _ _ h hf => hf.step h) ⟨rfl, hsavable.focusCount⟩
  refine ⟨hiff, fun hroom => hrun.last hfresh (hiff.2 hroom), ?_⟩
  intro allocator data bytes hsave allocator' hg destination
  exact saved_is_loaded_iff (hfocus.savable hsavable) hsave hg destination

/-! ## Two runs of a pair -/

def FocusCall.apply (m : CoopMachine) (c : FocusCall) : CoopMachine :=
  coopMachineFocus m c.x c.y c.active

/-- One of two players drops out, the other walks on, and the first comes back. -/
def easedCalls : List FocusCall := [⟨100, 50, 2⟩, ⟨110, 50, 1⟩, ⟨112, 50, 1⟩, ⟨112, 50, 2⟩]

/-- One of two players drops out at the left edge, and the other walks back to it. -/
def heldCalls : List FocusCall := [⟨0, 0, 2⟩, ⟨4, 0, 1⟩, ⟨0, 0, 1⟩]

theorem pairCall {x y : Int32} {active : UInt32} {m : CoopMachine} (hx : coordinateValid x = true)
    (hy : coordinateValid y = true)
    (ha : 1 ≤ active.toNat ∧ active.toNat ≤ m.session.players.length) :
    FocusCall.step m ⟨x, y, active⟩ (FocusCall.apply m ⟨x, y, active⟩) := ⟨⟨hx, hy, ha⟩, rfl⟩

theorem easedRun : Run FocusCall.step pairMachine (traceOf FocusCall.apply pairMachine easedCalls)
    (easedCalls.foldl FocusCall.apply pairMachine) :=
  .cons (pairCall rfl rfl (by decide)) <| .cons (pairCall rfl rfl (by decide)) <|
    .cons (pairCall rfl rfl (by decide)) <| .cons (pairCall rfl rfl (by decide)) <| .nil _

theorem heldRun : Run FocusCall.step pairMachine (traceOf FocusCall.apply pairMachine heldCalls)
    (heldCalls.foldl FocusCall.apply pairMachine) :=
  .cons (pairCall rfl rfl (by decide)) <| .cons (pairCall rfl rfl (by decide)) <|
    .cons (pairCall rfl rfl (by decide)) <| .nil _

/-- A machine the pair's runs reach is saved. -/
theorem pairRun_saved {m : CoopMachine} {steps : List (CoopMachine × FocusCall × CoopMachine)}
    (hrun : Run FocusCall.step pairMachine steps m) :
    Savable m ∧ ∃ bytes, coopMachineSave m [] (List.replicate (coopMachineSaveSize m) 0) =
      .ok bytes := by
  have hfocus : FocusRun pairMachine m :=
    hrun.invariant (fun _ _ _ h hf => hf.step h) ⟨rfl, pairMachine_savable.focusCount⟩
  have hm := hfocus.savable pairMachine_savable
  have hvalid := hfocus.valid.trans (entitiesValid_iff.2 pairMachine_valid)
  exact ⟨hm, _, coopMachineSave_image hm (hfocus.compact pairMachine_compact) hvalid
    Allocator.granted_nil (by rw [List.length_replicate])⟩

theorem focus_saved_and_loaded_eased : ∃ m bytes t,
    m = easedCalls.foldl FocusCall.apply pairMachine ∧ m.focusX = 106 ∧
    coopMachineSave m [] (List.replicate (coopMachineSaveSize m) 0) = .ok bytes ∧
    coopMachineLoad pairMachine (bytes.take (coopMachineSaveSize m)) [] = .ok (true, t) := by
  obtain ⟨-, bytes, hsave⟩ := pairRun_saved easedRun
  obtain ⟨-, hrange, hload⟩ := focus_saved_and_loaded pairMachine_init easedRun
  have hroom : ∀ s ∈ traceOf FocusCall.apply pairMachine easedCalls, s.2.1.KeepsRoom s.1 := by
    decide
  obtain ⟨t, ht⟩ := (hload _ _ _ hsave _ Allocator.granted_nil pairMachine).2 (hrange hroom)
  exact ⟨_, bytes, t, rfl, by decide, hsave, ht⟩

/-- A held focus is carried over the left edge; the machine is saved, and no load takes it back. -/
theorem held_focus_lost : ∃ m bytes,
    Run FocusCall.step pairMachine (traceOf FocusCall.apply pairMachine heldCalls) m ∧
    m.focusX = -4 ∧
    coopMachineSave m [] (List.replicate (coopMachineSaveSize m) 0) = .ok bytes ∧
    ∀ allocator, Allocator.Granted allocator → ∀ destination t,
      coopMachineLoad destination (bytes.take (coopMachineSaveSize m)) allocator ≠
        .ok (true, t) := by
  obtain ⟨hm, bytes, hsave⟩ := pairRun_saved heldRun
  refine ⟨_, bytes, heldRun, by decide, hsave, fun allocator hg destination t hload => ?_⟩
  have hrange := (saved_is_loaded_iff hm hsave hg destination).1 ⟨t, hload⟩
  exact absurd hrange.x (by decide)

end SmwRecomp.Coop
