import SmwRecomp.Coop.MachineState
import SmwRecomp.Coop.Snapshot
import Mathlib.Algebra.Order.BigOperators.Group.List
import Mathlib.Algebra.Group.Action.Defs
import Mathlib.Algebra.Order.Ring.Nat

/-!
# Machine images

* `machineImage` — the bytes of a saved machine, section by section; `oldImage` — those of an older
  version.
* `Savable`, `Compact` — the machines whose image is written.
* `coopMachineSaveSize_image`, `coopMachineSave_image` — the size function announces the length of
  the image, and saving writes it.
-/

set_option autoImplicit false

namespace SmwRecomp.Coop

/-! ## Images -/

def countWord {α : Type} (xs : List α) : UInt32 := UInt32.ofNat xs.length

def pieceImage (v : CoopVisualPiece) : Bytes :=
  words [v.x.toUInt32, v.y.toUInt32, v.width, v.height, v.priority, v.math, v.slot]
    (v.pixels.toList.flatMap le16)

def picturesImage (pending visible : List CoopVisualPiece) : Bytes :=
  pending.flatMap pieceImage ++ visible.flatMap pieceImage

def actorImage (a : CoopActor) : Bytes :=
  words [a.player, a.inputSeat, countWord a.pending, countWord a.visible]
    (a.guest.toList ++ picturesImage a.pending a.visible)

def entityImage (e : CoopEntity) : Bytes :=
  words [e.id, e.kind, e.slot, e.type, e.owner, e.target, e.flags] []

def mountImage (e : CoopEntity) : Bytes :=
  words [e.id, countWord e.pending, countWord e.visible]
    (e.mount.toList ++ picturesImage e.pending e.visible)

def sourceImage (s : CoopYoshiSource) : Bytes :=
  words [s.level, s.layer, s.x, s.y, s.tile, s.uses] []

def fireballImage (f : CoopFireball) : Bytes :=
  words [f.id] (f.guest.toList ++
    words [countWord f.pending, countWord f.visible] (picturesImage f.pending f.visible))

def fireballsImage (a : CoopActor) : Bytes :=
  words [a.player] (a.fireballs.toList.flatMap fireballImage)

def storedMountImage (a : CoopActor) : Bytes :=
  words [a.player, a.storedMount, a.storedMountColor] []

def eggImage (s : CoopPlacedEgg) : Bytes :=
  words [s.level, s.x, s.y, s.loadIndex, s.uses, s.egg] []

def headImage (version : UInt32) (m : CoopMachine) : Bytes :=
  (tag 'C' 'N' 'R' '1').toList ++ words [version] (romId.toList ++
    words [UInt32.ofNat (coopSessionSaveSize m.session), countWord m.actors, layoutId, m.room,
      m.previousMode, boolWord m.roomInitialized] [])

def entitiesImage (m : CoopMachine) : Bytes :=
  (tag 'E' 'N' 'T' '1').toList ++
    words [countWord m.entities, m.nextEntity, m.level] (m.entities.flatMap entityImage)

def focusImage (m : CoopMachine) : Bytes :=
  (tag 'C' 'A' 'M' '1').toList ++
    words [m.focusX.toUInt32, m.focusY.toUInt32, m.focusCenterX.toUInt32, m.focusCenterY.toUInt32,
      m.focusCount, boolWord m.focusInitialized, boolWord m.focusHold] []

def yoshiImage (m : CoopMachine) : Bytes :=
  (tag 'Y' 'S' 'H' '1').toList ++
    words [countWord m.mounts, countWord m.sources, boolWord m.mountsInitialized]
      (m.mounts.flatMap mountImage ++ m.sources.flatMap sourceImage)

def projectilesImage (m : CoopMachine) : Bytes :=
  (tag 'P' 'J' 'T' '1').toList ++
    words [countWord m.actors, UInt32.ofNat COOP_FIREBALL_SLOTS, boolWord m.fireballsInitialized]
      (m.actors.flatMap fireballsImage)

def storedMountsImage (m : CoopMachine) : Bytes :=
  (tag 'M' 'T' 'R' '1').toList ++
    words [countWord m.actors, boolWord m.entrancePrepared, 0] (m.actors.flatMap storedMountImage)

def eggsImage (m : CoopMachine) : Bytes :=
  (tag 'P' 'E' 'G' '1').toList ++ words [countWord m.placedEggs] (m.placedEggs.flatMap eggImage)

/-- The sections behind the session. -/
def sectionsImage (m : CoopMachine) : Bytes :=
  m.actors.flatMap actorImage ++ (entitiesImage m ++ (focusImage m ++ (yoshiImage m ++
    (projectilesImage m ++ (storedMountsImage m ++ eggsImage m)))))

def machineBody (m : CoopMachine) : Bytes :=
  headImage machineVersion m ++ (sessionImage m.session ++ sectionsImage m)

def machineImage (m : CoopMachine) : Bytes := sealBytes (machineBody m)

/-- A section of the images from version `first` on. -/
def sectionSince (first version : UInt32) (bs : Bytes) : Bytes := if version ≥ first then bs else []

/-- What an image of the given version holds of a machine. -/
def oldBody (version : UInt32) (m : CoopMachine) : Bytes :=
  headImage version m ++ (sessionImage m.session ++ (m.actors.flatMap actorImage ++
    (sectionSince 3 version (entitiesImage m) ++ (sectionSince 4 version (focusImage m) ++
      (sectionSince 5 version (yoshiImage m) ++ (sectionSince 6 version (projectilesImage m) ++
        (sectionSince 7 version (storedMountsImage m) ++ sectionSince 8 version (eggsImage m))))))))

def oldImage (version : UInt32) (m : CoopMachine) : Bytes := sealBytes (oldBody version m)

theorem sectionSince_machineVersion {first : UInt32} (h : machineVersion ≥ first) (bs : Bytes) :
    sectionSince first machineVersion bs = bs := if_pos h

theorem oldBody_machineVersion (m : CoopMachine) : oldBody machineVersion m = machineBody m := by
  unfold oldBody machineBody sectionsImage
  rw [sectionSince_machineVersion (by decide), sectionSince_machineVersion (by decide),
    sectionSince_machineVersion (by decide), sectionSince_machineVersion (by decide),
    sectionSince_machineVersion (by decide), sectionSince_machineVersion (by decide)]

/-! ## What can be saved -/

/-- Two picture lists within their arrays, every piece valid. -/
structure Pictures (bound : Nat) (pending visible : List CoopVisualPiece) : Prop where
  pendingFits : pending.length ≤ bound
  visibleFits : visible.length ≤ bound
  valid : ∀ v ∈ pending ++ visible, pieceValid v = true

structure FocusInRange (m : CoopMachine) : Prop where
  x : coordinateValid m.focusX = true
  y : coordinateValid m.focusY = true
  centerX : coordinateValid m.focusCenterX = true
  centerY : coordinateValid m.focusCenterY = true

/-- The machine's fields fit a snapshot; `entities_valid` and the range of the focus are asked for
beside it. -/
structure Savable (m : CoopMachine) : Prop where
  session : valid m.session = true
  players : 2 ≤ m.session.players.length
  actors : ActorsMatch m
  seats : (m.actors.map CoopActor.inputSeat).Nodup
  bodies : ∀ a ∈ m.actors, Pictures COOP_BODY_PIECES a.pending a.visible
  fireballs : ∀ f ∈ m.fireballs, Pictures 1 f.pending f.visible
  mounts : ∀ e ∈ m.mounts, Pictures COOP_MOUNT_PIECES e.pending e.visible
  mode : m.previousMode ≤ 0x29
  focusCount : m.focusCount.toNat ≤ m.session.players.length

/-- The three sizes a snapshot stores in a word do not exceed it. -/
structure Compact (m : CoopMachine) : Prop where
  session : (sessionImage m.session).length ≤ UINT32_MAX
  sources : m.sources.length ≤ UINT32_MAX
  eggs : m.placedEggs.length ≤ UINT32_MAX

section Savable

variable {m : CoopMachine}

theorem Savable.storable (h : Savable m) (hc : Compact m) : Storable m.session := by
  have hlen := hc.session
  rw [sessionImage_length] at hlen
  unfold UINT32_MAX at hlen
  have hmax : COOP_NO_PLAYER.toNat = 4294967295 := rfl
  exact ⟨h.players, by omega, by omega, by omega⟩

theorem ActorsMatch.length (h : ActorsMatch m) : m.actors.length = m.session.players.length := by
  have := List.Perm.length_eq h
  rwa [List.length_map, List.length_map] at this

end Savable

/-! ## Lengths -/

theorem flatMap_length {α : Type} {image : α → Bytes} {size : α → Nat}
    (h : ∀ a, (image a).length = size a) (as : List α) :
    (as.flatMap image).length = (as.map size).sum := by
  rw [List.length_flatMap]
  exact congrArg (fun f => (as.map f).sum) (funext h)

/-- Images of `c` bytes and a variable rest. -/
theorem flatMap_length_add {α : Type} {image : α → Bytes} {c : Nat} {size : α → Nat}
    (h : ∀ a, (image a).length = c + size a) (as : List α) :
    (as.flatMap image).length = as.length * c + (as.map size).sum := by
  rw [flatMap_length h, List.sum_map_add, List.map_const', List.sum_replicate, smul_eq_mul]

theorem flatMap_length_const {α : Type} {image : α → Bytes} {n : Nat}
    (h : ∀ a, (image a).length = n) (as : List α) : (as.flatMap image).length = as.length * n := by
  rw [flatMap_length h, List.map_const', List.sum_replicate, smul_eq_mul]

theorem pieceImage_length (v : CoopVisualPiece) : (pieceImage v).length = PIECE_BYTES := by
  rw [pieceImage, words_length, flatMap_le16_length, v.pixels.toList_length]
  rfl

theorem picturesImage_length (pending visible : List CoopVisualPiece) :
    (picturesImage pending visible).length = picturesBytes pending visible := by
  rw [picturesImage, List.length_append, flatMap_length_const pieceImage_length,
    flatMap_length_const pieceImage_length, picturesBytes, Nat.add_mul]

theorem actorImage_length (a : CoopActor) : (actorImage a).length =
    ACTOR_HEADER + COOP_GUEST_BYTES + picturesBytes a.pending a.visible := by
  rw [actorImage, words_length, List.length_append, a.guest.toList_length, picturesImage_length,
    Nat.add_assoc]
  rfl

theorem mountImage_length (e : CoopEntity) : (mountImage e).length =
    12 + COOP_MOUNT_BYTES + picturesBytes e.pending e.visible := by
  rw [mountImage, words_length, List.length_append, e.mount.toList_length, picturesImage_length,
    Nat.add_assoc]
  rfl

theorem fireballImage_length (f : CoopFireball) : (fireballImage f).length =
    24 + picturesBytes f.pending f.visible := by
  rw [fireballImage, words_length, List.length_append, f.guest.toList_length, words_length,
    picturesImage_length, ← Nat.add_assoc, ← Nat.add_assoc]
  rfl

theorem entityImage_length (e : CoopEntity) : (entityImage e).length = ENTITY_BYTES := rfl

theorem sourceImage_length (s : CoopYoshiSource) : (sourceImage s).length = 24 := rfl

theorem storedMountImage_length (a : CoopActor) : (storedMountImage a).length = 12 := rfl

theorem eggImage_length (s : CoopPlacedEgg) : (eggImage s).length = 24 := rfl

theorem headImage_length (version : UInt32) (m : CoopMachine) :
    (headImage version m).length = HEADER := by
  simp [headImage, HEADER]

theorem focusImage_length (m : CoopMachine) : (focusImage m).length = FOCUS_BYTES := by
  simp [focusImage, FOCUS_BYTES]

theorem entitiesImage_length (m : CoopMachine) :
    (entitiesImage m).length = ENTITY_HEADER + m.entities.length * ENTITY_BYTES := by
  have h := flatMap_length_const entityImage_length m.entities
  simp [entitiesImage, ENTITY_HEADER, h]
  omega

theorem storedMountsImage_length (m : CoopMachine) :
    (storedMountsImage m).length = 16 + m.actors.length * 12 := by
  have h := flatMap_length_const storedMountImage_length m.actors
  simp [storedMountsImage, h]
  omega

theorem eggsImage_length (m : CoopMachine) :
    (eggsImage m).length = 8 + m.placedEggs.length * 24 := by
  have h := flatMap_length_const eggImage_length m.placedEggs
  simp [eggsImage, h]
  omega

theorem yoshiImage_length (m : CoopMachine) : (yoshiImage m).length =
    16 + m.sources.length * 24 + (m.mounts.map fun e =>
      12 + COOP_MOUNT_BYTES + picturesBytes e.pending e.visible).sum := by
  have h := flatMap_length_const sourceImage_length m.sources
  simp [yoshiImage, h, flatMap_length mountImage_length]
  omega

theorem actorImages_length (as : List CoopActor) : (as.flatMap actorImage).length =
    as.length * (ACTOR_HEADER + COOP_GUEST_BYTES) +
      (as.map fun a => picturesBytes a.pending a.visible).sum :=
  flatMap_length_add actorImage_length as

theorem fireballsImage_length (a : CoopActor) : (fireballsImage a).length =
    4 + COOP_FIREBALL_SLOTS * 24 +
      (a.fireballs.toList.map fun f => picturesBytes f.pending f.visible).sum := by
  rw [fireballsImage, words_length, flatMap_length_add fireballImage_length,
    a.fireballs.toList_length, ← Nat.add_assoc]
  rfl

theorem projectilesImage_length (m : CoopMachine) : (projectilesImage m).length =
    16 + m.actors.length * (4 + COOP_FIREBALL_SLOTS * 24) +
      (m.fireballs.map fun f => picturesBytes f.pending f.visible).sum := by
  have hsum : (m.fireballs.map fun f => picturesBytes f.pending f.visible).sum =
    (m.actors.map fun a =>
      (a.fireballs.toList.map fun f => picturesBytes f.pending f.visible).sum).sum := by
    rw [CoopMachine.fireballs, List.map_flatMap, List.flatMap, List.sum_flatten, List.map_map]
    rfl
  rw [projectilesImage, List.length_append, words_length, flatMap_length_add fireballsImage_length,
    hsum]
  simp
  omega

/-! ## The size function -/

theorem zeroIf_bind {α : Type} {c : Prop} [Decidable c] (h : ¬ c) (f : Unit → Option α) :
    (zeroIf c >>= f) = f () := by
  rw [zeroIf, if_neg h]
  rfl

theorem zeroIf_eq_some {c : Prop} [Decidable c] {u : Unit} : zeroIf c = some u ↔ ¬ c := by
  unfold zeroIf
  split <;> simp [*]

theorem addSizes_eq {α : Type} {fits : α → Bool} {bytes : α → Nat} : ∀ {as : List α} {n : Nat},
    (∀ a ∈ as, fits a = true) → n + (as.map bytes).sum ≤ SIZE_MAX →
    addSizes fits bytes as n = some (n + (as.map bytes).sum)
  | [], n, _, _ => rfl
  | a :: as, n, hfits, hsum => by
    rw [List.forall_mem_cons] at hfits
    rw [List.map_cons, List.sum_cons] at hsum
    unfold addSizes
    rw [zeroIf_bind (by simp [hfits.1]), zeroIf_bind (by omega)]
    rw [List.map_cons, List.sum_cons, ← Nat.add_assoc]
    exact addSizes_eq hfits.2 (by omega)

theorem addSizes_bind {α β : Type} {fits : α → Bool} {bytes : α → Nat} {as : List α} {n : Nat}
    (hfits : ∀ a ∈ as, fits a = true) (hsum : n + (as.map bytes).sum ≤ SIZE_MAX)
    (f : Nat → Option β) :
    (addSizes fits bytes as n >>= f) = f (n + (as.map bytes).sum) := by
  rw [addSizes_eq hfits hsum]
  rfl

theorem Pictures.countsFit {bound : Nat} {pending visible : List CoopVisualPiece}
    (h : Pictures bound pending visible) : countsFit bound pending visible = true := by
  have hp := h.pendingFits
  have hv := h.visibleFits
  simp [Coop.countsFit, hp, hv]

theorem Pictures.bytes_le {bound : Nat} {pending visible : List CoopVisualPiece}
    (h : Pictures bound pending visible) :
    picturesBytes pending visible ≤ 2 * bound * PIECE_BYTES := by
  have hp := h.pendingFits
  have hv := h.visibleFits
  exact Nat.mul_le_mul_right _ (by omega)

theorem sum_map_le {α : Type} {size : α → Nat} {c : Nat} {as : List α} (h : ∀ a ∈ as, size a ≤ c) :
    (as.map size).sum ≤ as.length * c := by
  have := List.sum_le_card_nsmul (as.map size) c (by simpa using h)
  rwa [List.length_map, smul_eq_mul] at this

/-- The size function announces the image's length: no guard takes effect. -/
theorem coopMachineSaveSize_image {m : CoopMachine} (h : Savable m) (hc : Compact m)
    (hentities : m.entities.length ≤ 22) :
    coopMachineSaveSize m = (machineImage m).length := by
  have hs := h.storable hc
  have hcore := hs.saveSize
  have hactors := h.actors.length
  have hplayers := hs.players
  have hcoreMax := hc.session
  have hsources := hc.sources
  have heggs := hc.eggs
  have htwo := h.players
  have hpos : 140 ≤ (sessionImage m.session).length := by rw [sessionImage_length]; omega
  have hmounts : m.mounts.length ≤ 22 := Nat.le_trans (List.length_filter_le _ _) hentities
  have hballs : m.fireballs.length = m.actors.length * 2 := by
    rw [CoopMachine.fireballs, List.length_flatMap, List.map_congr_left (g := fun _ => 2) fun a _ =>
      a.fireballs.toList_length, List.map_const', List.sum_replicate, smul_eq_mul]
  -- the variable parts stay far below `SIZE_MAX`
  have hbodiesMax := sum_map_le fun a ha => (h.bodies a ha).bytes_le
  have hballsMax := sum_map_le fun f hf => (h.fireballs f hf).bytes_le
  have hmountsMax : (m.mounts.map fun e =>
      12 + COOP_MOUNT_BYTES + picturesBytes e.pending e.visible).sum ≤ m.mounts.length * _ :=
    sum_map_le fun e he => Nat.add_le_add_left (h.mounts e he).bytes_le _
  have hlength : (machineImage m).length = _ := sealBytes_length (machineBody m)
  rw [machineBody, sectionsImage] at hlength
  simp only [List.length_append, headImage_length, actorImages_length, entitiesImage_length,
    focusImage_length, yoshiImage_length, projectilesImage_length, storedMountsImage_length,
    eggsImage_length] at hlength
  have hmax : COOP_NO_PLAYER.toNat = 4294967295 := rfl
  rw [hmax] at hplayers
  simp only [hballs, HEADER, ACTOR_HEADER, COOP_GUEST_BYTES, ENTITY_HEADER,
    ENTITY_BYTES, FOCUS_BYTES, COOP_FIREBALL_SLOTS, COOP_MOUNT_BYTES, PIECE_BYTES,
    COOP_PIECE_PIXELS, COOP_BODY_PIECES, COOP_MOUNT_PIECES, UINT32_MAX] at *
  have hsize : machineSize m = some (machineImage m).length := by
    unfold machineSize
    simp only [HEADER, ACTOR_HEADER, COOP_GUEST_BYTES, ENTITY_HEADER, ENTITY_BYTES, FOCUS_BYTES,
      COOP_FIREBALL_SLOTS, COOP_MOUNT_BYTES, UINT32_MAX, SIZE_MAX, TRAILER, hcore]
    refine (zeroIf_bind (by omega) _).trans ?_
    refine (zeroIf_bind (by omega) _).trans ?_
    refine (addSizes_bind (fun a ha => (h.bodies a ha).countsFit)
      (by simp only [SIZE_MAX]; omega) _).trans ?_
    refine (zeroIf_bind (by omega) _).trans ?_
    refine (zeroIf_bind (by omega) _).trans ?_
    refine (zeroIf_bind (by omega) _).trans ?_
    refine (addSizes_bind (fun e he => (h.mounts e he).countsFit)
      (by simp only [SIZE_MAX]; omega) _).trans ?_
    refine (zeroIf_bind (by omega) _).trans ?_
    refine (addSizes_bind (fun f hf => (h.fireballs f hf).countsFit)
      (by simp only [SIZE_MAX]; omega) _).trans ?_
    refine (zeroIf_bind (by omega) _).trans ?_
    refine (zeroIf_bind (by omega) _).trans ?_
    exact congrArg some (by omega)
  rw [coopMachineSaveSize, hsize]
  rfl

/-- A machine that gets a size is compact. -/
theorem Compact.of_saveSize {m : CoopMachine} (htwo : 2 ≤ m.session.players.length)
    (h : coopMachineSaveSize m ≠ 0) : Compact m := by
  unfold coopMachineSaveSize at h
  cases hsize : machineSize m with
  | none =>
      rw [hsize] at h
      exact absurd rfl h
  | some n =>
      unfold machineSize at hsize
      simp only [Option.bind_eq_bind, Option.bind_eq_some_iff, zeroIf_eq_some, not_or, Nat.not_lt]
        at hsize
      obtain ⟨-, -, -, ⟨hpos, hcore, -⟩, n₁, -, -, -, -, -, -, ⟨-, hsources, -⟩, n₂, -, -, -,
        n₃, -, -, -, -, ⟨-, heggs, -⟩, -⟩ := hsize
      exact ⟨by rw [← (Storable.of_saveSize htwo hpos).saveSize]; exact hcore, hsources, heggs⟩

theorem coopMachineSave_sizeless {m : CoopMachine} (h : coopMachineSaveSize m = 0)
    (allocator : Allocator)
    (data : Bytes) : coopMachineSave m allocator data = .error .refused := by
  unfold coopMachineSave
  dsimp only
  rw [refuseIf_pos (Or.inl h), error_bind]

/-! ## Saving -/

theorem writes_savePiece {v : CoopVisualPiece} (h : pieceValid v = true) :
    Writes (savePiece v) (pieceImage v) := by
  unfold savePiece pieceImage
  refine Writes.refuse (by simp [h]) ?_
  refine Writes.word <| Writes.word <| Writes.word <| Writes.word <| Writes.word <| Writes.word <|
    Writes.word ?_
  exact writes_putBytes _

theorem Pictures.writes {bound : Nat} {pending visible : List CoopVisualPiece}
    (h : Pictures bound pending visible) :
    Writes (putEach savePiece pending >>= fun _ => putEach savePiece visible)
      (picturesImage pending visible) :=
  (writes_putEach fun v hv => writes_savePiece (h.valid v (List.mem_append_left _ hv))).bind
    (writes_putEach fun v hv => writes_savePiece (h.valid v (List.mem_append_right _ hv)))

theorem writes_saveActor {a : CoopActor} (h : Pictures COOP_BODY_PIECES a.pending a.visible) :
    Writes (saveActor a) (actorImage a) := by
  unfold saveActor actorImage
  refine Writes.word <| Writes.word <| Writes.word <| Writes.word ?_
  exact (writes_putBytes _).bind h.writes

theorem writes_saveEntity (e : CoopEntity) : Writes (saveEntity e) (entityImage e) := by
  unfold saveEntity entityImage
  exact Writes.word <| Writes.word <| Writes.word <| Writes.word <| Writes.word <| Writes.word <|
    writes_lastWord _

theorem writes_saveMount {e : CoopEntity} (h : Pictures COOP_MOUNT_PIECES e.pending e.visible) :
    Writes (saveMount e) (mountImage e) := by
  unfold saveMount mountImage
  refine Writes.word <| Writes.word <| Writes.word ?_
  exact (writes_putBytes _).bind h.writes

theorem writes_saveSource (s : CoopYoshiSource) : Writes (saveSource s) (sourceImage s) := by
  unfold saveSource sourceImage
  exact Writes.word <| Writes.word <| Writes.word <| Writes.word <| Writes.word <| writes_lastWord _

theorem writes_saveFireball {f : CoopFireball} (h : Pictures 1 f.pending f.visible) :
    Writes (saveFireball f) (fireballImage f) := by
  unfold saveFireball fireballImage
  refine Writes.word ?_
  exact (writes_putBytes _).bind <| Writes.word <| Writes.word h.writes

theorem writes_saveFireballs {a : CoopActor}
    (h : ∀ f ∈ a.fireballs.toList, Pictures 1 f.pending f.visible) :
    Writes (saveFireballs a) (fireballsImage a) := by
  unfold saveFireballs fireballsImage
  exact Writes.word (writes_putEach fun f hf => writes_saveFireball (h f hf))

theorem writes_saveStoredMount (a : CoopActor) :
    Writes (saveStoredMount a) (storedMountImage a) := by
  unfold saveStoredMount storedMountImage
  exact Writes.word <| Writes.word <| writes_lastWord _

theorem writes_saveEgg (s : CoopPlacedEgg) : Writes (saveEgg s) (eggImage s) := by
  unfold saveEgg eggImage
  exact Writes.word <| Writes.word <| Writes.word <| Writes.word <| Writes.word <| writes_lastWord _

theorem writes_saveHead (m : CoopMachine) : Writes (saveHead m) (headImage machineVersion m) := by
  unfold saveHead headImage
  refine (writes_putBytes _).bind <| Writes.word <| (writes_putBytes _).bind ?_
  exact Writes.word <| Writes.word <| Writes.word <| Writes.word <| Writes.word <| writes_lastWord _

theorem writes_saveEntities (m : CoopMachine) : Writes (saveEntities m) (entitiesImage m) := by
  unfold saveEntities entitiesImage
  refine (writes_putBytes _).bind <| Writes.word <| Writes.word <| Writes.word ?_
  exact writes_putEach fun e _ => writes_saveEntity e

theorem writes_saveFocus (m : CoopMachine) : Writes (saveFocus m) (focusImage m) := by
  unfold saveFocus focusImage
  refine (writes_putBytes _).bind ?_
  exact Writes.word <| Writes.word <| Writes.word <| Writes.word <| Writes.word <| Writes.word <|
    writes_lastWord _

theorem Savable.writes_saveMounts {m : CoopMachine} (h : Savable m) :
    Writes (saveMounts m) (yoshiImage m) := by
  unfold saveMounts yoshiImage
  refine (writes_putBytes _).bind <| Writes.word <| Writes.word <| Writes.word ?_
  exact (writes_putEach fun e he => writes_saveMount (h.mounts e he)).bind
    (writes_putEach fun s _ => writes_saveSource s)

theorem Savable.writes_saveProjectiles {m : CoopMachine} (h : Savable m) :
    Writes (saveProjectiles m) (projectilesImage m) := by
  unfold saveProjectiles projectilesImage
  refine (writes_putBytes _).bind <| Writes.word <| Writes.word <| Writes.word ?_
  exact writes_putEach fun a ha => writes_saveFireballs fun f hf =>
    h.fireballs f (mem_fireballs.2 ⟨a, ha, hf⟩)

theorem writes_saveStoredMounts (m : CoopMachine) :
    Writes (saveStoredMounts m) (storedMountsImage m) := by
  unfold saveStoredMounts storedMountsImage
  refine (writes_putBytes _).bind <| Writes.word <| Writes.word <| Writes.word ?_
  exact writes_putEach fun a _ => writes_saveStoredMount a

theorem writes_saveEggs (m : CoopMachine) : Writes (saveEggs m) (eggsImage m) := by
  unfold saveEggs eggsImage
  refine (writes_putBytes _).bind <| Writes.word ?_
  exact writes_putEach fun s _ => writes_saveEgg s

/-- With its requests granted the session writes its image into the bytes it is given. -/
theorem Savable.writes_session {m : CoopMachine} (h : Savable m) (hs : Storable m.session)
    {allocator : Allocator} (hg : allocator.Granted) :
    Writes (putWith (coopSessionSaveSize m.session) (coopSessionSave m.session allocator))
      (sessionImage m.session) := by
  refine writes_putWith hs.saveSize.symm fun old hold => ?_
  rw [coopSessionSave_image h.session hs hg (Nat.le_of_eq hold.symm),
    List.drop_of_length_le (by rw [hold, hs.saveSize]), List.append_nil]

theorem Savable.writes_saveMachine {m : CoopMachine} (h : Savable m) (hs : Storable m.session)
    {allocator : Allocator} (hg : allocator.Granted) :
    Writes (saveMachine m allocator) (machineBody m) := by
  unfold saveMachine machineBody sectionsImage
  refine (writes_saveHead m).bind <| (h.writes_session hs hg).bind ?_
  refine (writes_putEach fun a ha => writes_saveActor (h.bodies a ha)).bind ?_
  refine (writes_saveEntities m).bind <| (writes_saveFocus m).bind <| h.writes_saveMounts.bind ?_
  exact h.writes_saveProjectiles.bind <| (writes_saveStoredMounts m).bind (writes_saveEggs m)

/-- Saving writes the image in front of the buffer. -/
theorem coopMachineSave_image {m : CoopMachine} (h : Savable m) (hc : Compact m)
    (hentities : entitiesValid m = true) {allocator : Allocator} (hg : allocator.Granted)
    {data : Bytes}
    (hdata : coopMachineSaveSize m ≤ data.length) :
    coopMachineSave m allocator data =
      .ok (machineImage m ++ data.drop (machineImage m).length) := by
  have hcount := (entitiesValid_iff.1 hentities).count
  have hsize := coopMachineSaveSize_image h hc hcount
  have hlen := sealBytes_length (machineBody m)
  rw [hsize, machineImage, hlen] at hdata
  have hsplit := List.take_append_drop (machineBody m).length data
  have htake : (data.take (machineBody m).length).length = (machineBody m).length := by
    rw [List.length_take]; omega
  have hrest : ((data.drop (machineBody m).length).take 4).length = 4 := by
    rw [List.length_take, List.length_drop]; omega
  have hbody : saveMachine m allocator ⟨data, 0⟩ =
      .ok ((), ⟨machineBody m ++ data.drop (machineBody m).length, (machineBody m).length⟩) := by
    have := h.writes_saveMachine (h.storable hc) hg [] _ (data.drop (machineBody m).length) htake
    rwa [hsplit, List.nil_append, List.nil_append, List.length_nil, Nat.zero_add] at this
  have hsum : put32 (checksum (machineBody m)) ⟨machineBody m ++ data.drop (machineBody m).length,
      (machineBody m).length⟩ = .ok ((), ⟨machineImage m ++ data.drop (machineImage m).length,
        (machineBody m).length + 4⟩) := by
    have := writes_put32 (checksum (machineBody m)) (machineBody m) _
      ((data.drop (machineBody m).length).drop 4) hrest
    rw [List.take_append_drop, List.drop_drop, ← List.append_assoc] at this
    rw [machineImage, hlen, sealBytes]
    exact this
  unfold coopMachineSave
  dsimp only
  rw [refuseIf_neg, ok_bind, StateT.run, hbody, ok_bind]
  · dsimp only
    rw [List.take_left, StateT.run, hsum, ok_bind]
    rfl
  · rw [hsize, machineImage, hlen]
    simp [hentities]
    omega

/-- What a save that succeeds has checked and written. -/
theorem coopMachineSave_ok {m : CoopMachine} {allocator : Allocator} {data bytes : Bytes}
    (h : coopMachineSave m allocator data = .ok bytes) :
    coopMachineSaveSize m ≠ 0 ∧ coopMachineSaveSize m ≤ data.length ∧ entitiesValid m = true ∧
      ∃ c, saveMachine m allocator ⟨data, 0⟩ = .ok c ∧ coopMachineSave m [] data = .ok bytes ∧
        ∃ old bs, coopSessionSave m.session allocator old = .ok bs := by
  unfold coopMachineSave at h ⊢
  dsimp only at h ⊢
  by_cases hr : coopMachineSaveSize m = 0 ∨ data.length < coopMachineSaveSize m ∨
    entitiesValid m = false
  · rw [refuseIf_pos hr, error_bind] at h
    cases h
  rw [refuseIf_neg hr, ok_bind, StateT.run] at h
  rw [refuseIf_neg hr, ok_bind, StateT.run]
  simp only [not_or, Nat.not_lt, Bool.not_eq_false] at hr
  cases hw : saveMachine m allocator ⟨data, 0⟩ with
  | error stop => rw [hw, error_bind] at h; cases h
  | ok c =>
      rw [hw, ok_bind] at h
      have hsame := hw
      unfold saveMachine at hsame
      obtain ⟨s₁, hhead, hrest⟩ := bind_eq_ok hsame
      obtain ⟨s₂, hput, hrest⟩ := bind_eq_ok hrest
      obtain ⟨hput, old, bs, hsession⟩ :=
        putWith_mono (fun _ _ => coopSessionSave_granted) hput
      have hgranted : saveMachine m [] ⟨data, 0⟩ = .ok c := by
        unfold saveMachine
        rw [bind_ok hhead, bind_ok hput]
        exact hrest
      refine ⟨hr.1, hr.2.1, hr.2.2, c, rfl, ?_, old, bs, hsession⟩
      rw [hgranted, ok_bind]
      exact h

/-- A session that gets no storage is not saved. -/
theorem coopMachineSave_starved (m : CoopMachine) (data bytes : Bytes) :
    coopMachineSave m [false] data ≠ .ok bytes := by
  intro h
  obtain ⟨-, -, -, -, -, -, old, bs, hsession⟩ := coopMachineSave_ok h
  exact coopSessionSave_starved m.session old bs hsession

end SmwRecomp.Coop
