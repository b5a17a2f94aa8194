import SmwRecomp.Sram.QueueRuns
import Mathlib.Data.List.Induction

/-!
# No save is lost or rolled back

What the queue promises, over every interleaving and every pattern of failing writes.

* `queued` — the images a run has queued since the last release, read off its steps.
* `saves_run` — the list holds exactly these.
* `writes_in_order` — an older image of a path is not written after a newer one.
* `finished_durable` — a finish that reports success; `finish_possible` — there always is one to
  come.
* `storage_queue` — all of it.
-/

set_option autoImplicit false

namespace SmwRecomp.Sram

variable {π : Type}

/-! ## What a run has queued -/

/-- What an image is there to save. -/
def StorageImage.save (image : StorageImage π) : π × List UInt8 := (image.path, image.bytes)

def note (saves : List (π × List UInt8)) (step : Storage π × Act π × Storage π) :
    List (π × List UInt8) :=
  match step.2.1 with
  | .queue .accepted => saves ++ [(step.1.path, step.1.sram)]
  | .finished true => []
  | _ => saves

/-- The images queued since the last release. -/
def queued (steps : List (Storage π × Act π × Storage π)) : List (π × List UInt8) :=
  steps.foldl note []

theorem map_save_set {images : List (StorageImage π)} {k : Nat} {image : StorageImage π}
    (hk : images[k]? = some image) (success : Bool) :
    (images.set k { image with success := success }).map StorageImage.save =
      images.map StorageImage.save := by
  rw [List.map_set]
  refine List.ext_getElem? fun j => ?_
  rw [List.getElem?_set, List.getElem?_map]
  split
  · rename_i hkj
    subst hkj
    obtain ⟨hlt, -⟩ := List.getElem?_eq_some_iff.1 hk
    rw [hk]
    simp [hlt, StorageImage.save]
  · rfl

theorem startWorker_frame (s : Storage π) : s.startWorker.images = s.images ∧
    s.startWorker.path = s.path ∧
    s.startWorker.sram = s.sram ∧ s.startWorker.pending = s.pending := by
  unfold Storage.startWorker
  split <;> exact ⟨rfl, rfl, rfl, rfl⟩

/-! ## What a step may touch -/

section Operations

variable {s t : Storage π}

theorem note_quiet {saves : List (π × List UInt8)} {act : Act π} (hqueue : act ≠ .queue .accepted)
    (hfinished : act ≠ .finished true) : note saves (s, act, t) = saves := by
  cases act with
  | queue outcome =>
      cases outcome with
      | accepted => exact absurd rfl hqueue
      | _ => rfl
  | finished ok =>
      cases ok with
      | true => exact absurd rfl hfinished
      | false => rfl
  | _ => rfl

theorem note_prefix {saves : List (π × List UInt8)} {act : Act π} (h : act ≠ .finished true) :
    saves <+: note saves (s, act, t) := by
  by_cases hqueue : act = .queue .accepted
  · rw [hqueue]
    exact List.prefix_append _ _
  · exact (note_quiet hqueue h).symm ▸ List.prefix_refl _

/-- The images stay, and the worker has before it what it had, but for one it may have let go of. -/
structure Held (s t : Storage π) : Prop where
  saves : t.images.map StorageImage.save = s.images.map StorageImage.save
  pending : t.pending = s.pending
  writing : ∀ k, t.worker = .writing k → s.worker = .writing k

theorem queue_held {outcome : Queued} (h : s.queue outcome = some t)
    (hqueued : outcome ≠ .accepted) : Held s t := by
  cases outcome with
  | accepted => exact absurd rfl hqueued
  | _ =>
      dsimp only [Storage.queue] at h
      split at h <;> cases h
      exact ⟨rfl, rfl, fun _ hk => hk⟩

theorem finish_held (s : Storage π) : Held s s.finish := by
  unfold Storage.finish
  split <;> exact ⟨rfl, rfl, fun _ hk => hk⟩

theorem join_held (h : s.join = some t) : Held s t := by
  unfold Storage.join at h
  split at h <;> cases h
  exact ⟨rfl, rfl, fun _ hk => by cases hk⟩

theorem exit_held (h : s.exit = some t) : Held s t := by
  unfold Storage.exit at h
  split at h <;> cases h
  exact ⟨rfl, rfl, fun _ hk => by cases hk⟩

/-- The end of the retries: the images are released when all are written, and otherwise kept. -/
theorem finished_some {ok : Bool} (h : s.finished ok = some t) :
    t = if ok = true then { s with host := .idle, images := [], pending := none }
    else { s with host := .idle } := by
  unfold Storage.finished at h
  split at h
  · split at h
    · cases h
    · rename_i hguard
      rw [not_or, not_ne_iff, not_ne_iff] at hguard
      rw [hguard.2] at h
      split at h <;> cases h
      · rename_i hok
        exact (if_pos hok).symm
      · rename_i hok
        exact (if_neg hok).symm
  · cases h

end Operations

variable [DecidableEq π]

/-- The image last queued for a path. -/
def lastQueued (path : π) (saves : List (π × List UInt8)) : Option (List UInt8) :=
  ((saves.filter (fun save => save.1 = path)).getLast?).map Prod.snd

section Steps

variable {s t : Storage π}

theorem write_held {i : Nat} {content : Option (List UInt8)} {ok : Bool}
    (h : s.write i content ok = some t) :
    Held s t := by
  obtain ⟨image, himage, -, rfl⟩ := write_some h
  exact ⟨map_save_set himage ok, rfl, fun _ hk => hk⟩

theorem pass_held (h : s.pass = some t) : Held s t := by
  unfold Storage.pass at h
  split at h
  · split at h
    · cases h
    · split at h <;> cases h
      exact ⟨rfl, rfl, fun _ hk => hk⟩
  · cases h

theorem retry_held {i : Nat} {content : Option (List UInt8)} {ok : Bool}
    (h : s.retry i content ok = some t) :
    Held s t := by
  unfold Storage.retry at h
  split at h
  · split at h
    · cases h
    · split at h
      · cases h
      · obtain ⟨u, hwrite, rfl⟩ := Option.map_eq_some_iff.1 h
        obtain ⟨hsaves, hpending, hwriting⟩ := write_held hwrite
        exact ⟨hsaves, hpending, hwriting⟩
  · cases h

theorem workerWrite_held {i : Nat} {content : Option (List UInt8)} {ok : Bool}
    (h : s.workerWrite i content ok = some t) : Held s t := by
  unfold Storage.workerWrite at h
  split at h
  · obtain ⟨u, hwrite, rfl⟩ := Option.map_eq_some_iff.1 h
    exact ⟨(write_held hwrite).saves, (write_held hwrite).pending, fun _ hk => by cases hk⟩
  · cases h

/-- A step holds what is queued, or adds an image, releases all, or hands the next one to the
worker. -/
theorem next_cases {act : Act π} (h : s.next act = some t) :
    (Held s t ∧ act ≠ .queue .accepted ∧ act ≠ .finished true) ∨
    (act = .queue .accepted ∧ t = s.startWorker.append) ∨
    (act = .finished true ∧ t = { s with host := .idle, images := [], pending := none }) ∨
    (act = .take ∧ ∃ k, s.pending = some k ∧ t = { s with
      worker := .writing k
      pending := if k + 1 < s.images.length then some (k + 1) else none }) := by
  cases act with
  | guest sram =>
      obtain ⟨-, heq⟩ := call_some h
      cases heq
      exact .inl ⟨⟨rfl, rfl, fun _ hk => hk⟩, by simp, by simp⟩
  | root path =>
      obtain ⟨-, heq⟩ := call_some h
      cases heq
      exact .inl ⟨⟨rfl, rfl, fun _ hk => hk⟩, by simp, by simp⟩
  | queue outcome =>
      obtain ⟨-, hqueue⟩ := call_some h
      by_cases hqueued : outcome = .accepted
      · subst hqueued
        dsimp only [Storage.queue] at hqueue
        split at hqueue <;> cases hqueue
        exact .inr (.inl ⟨rfl, rfl⟩)
      · exact .inl ⟨queue_held hqueue hqueued, fun hact => hqueued (Act.queue.inj hact), by simp⟩
  | read found =>
      obtain ⟨-, hread⟩ := call_some h
      obtain ⟨⟨found', u⟩, hresult, heq⟩ := Option.bind_eq_some_iff.1 hread
      obtain ⟨sram, rfl⟩ := readQueued_frame hresult
      split at heq <;> cases heq
      exact .inl ⟨⟨rfl, rfl, fun _ hk => hk⟩, by simp, by simp⟩
  | finish =>
      obtain ⟨-, heq⟩ := call_some h
      cases heq
      exact .inl ⟨finish_held s, by simp, by simp⟩
  | join => exact .inl ⟨join_held h, by simp, by simp⟩
  | pass => exact .inl ⟨pass_held h, by simp, by simp⟩
  | retry image content ok => exact .inl ⟨retry_held h, by simp, by simp⟩
  | finished ok =>
      cases ok with
      | true => exact .inr (.inr (.inl ⟨rfl, finished_some h⟩))
      | false =>
          rw [finished_some (s := s) h]
          exact .inl ⟨⟨rfl, rfl, fun _ hk => hk⟩, by simp, by simp⟩
  | take =>
      dsimp only [Storage.next, Storage.take] at h
      split at h
      · rename_i k hworker hpending
        cases h
        exact .inr (.inr (.inr ⟨rfl, k, hpending, rfl⟩))
      · cases h
  | write image content ok => exact .inl ⟨workerWrite_held h, by simp, by simp⟩
  | exit => exact .inl ⟨exit_held h, by simp, by simp⟩

/-- The list of images follows what the steps queue and release. -/
theorem saves_next {act : Act π} (h : s.next act = some t) :
    t.images.map StorageImage.save = note (s.images.map StorageImage.save) (s, act, t) := by
  obtain ⟨hheld, hqueue, hfinished⟩ | ⟨rfl, rfl⟩ | ⟨rfl, rfl⟩ | ⟨rfl, k, -, rfl⟩ := next_cases h
  · rw [note_quiet hqueue hfinished]
    exact hheld.saves
  · obtain ⟨himages, hpath, hsram, -⟩ := startWorker_frame s
    show (s.startWorker.images ++
      [(⟨s.startWorker.path, s.startWorker.sram, false⟩ : StorageImage π)]).map
      StorageImage.save = _
    rw [List.map_append, himages, hpath, hsram]
    rfl
  · rfl
  · rfl

theorem saves_run {steps : List (Storage π × Act π × Storage π)}
    (hrun : Run Storage.Step s steps t) :
    t.images.map StorageImage.save = steps.foldl note (s.images.map StorageImage.save) := by
  induction hrun with
  | nil => rfl
  | cons hstep _ ih =>
      rw [ih, saves_next hstep]
      rfl

/-! ## Reads -/

theorem latest_append (path : π) (images : List (StorageImage π)) (image : StorageImage π) :
    latest path (images ++ [image]) = if image.path = path then some image
    else latest path images := by
  unfold latest
  rw [List.foldl_append]
  rfl

theorem latest_eq (path : π) (images : List (StorageImage π)) :
    (latest path images).map StorageImage.bytes =
      lastQueued path (images.map StorageImage.save) := by
  induction images using List.reverseRecOn with
  | nil => rfl
  | append_singleton images image ih =>
      rw [latest_append, List.map_append]
      unfold lastQueued at ih ⊢
      rw [List.filter_append]
      by_cases hpath : image.path = path
      · simp [StorageImage.save, hpath]
      · simpa [StorageImage.save, hpath] using ih

/-- The newest image of a path, where the retry loop looks for it. -/
theorem latest_newest {path : π} {images : List (StorageImage π)} {image : StorageImage π}
    (h : latest path images = some image) :
    ∃ i, images[i]? = some image ∧ image.path = path ∧ superseded images i path = false := by
  induction images using List.reverseRecOn with
  | nil => cases h
  | append_singleton images last ih =>
      rw [latest_append] at h
      split at h
      · rename_i hpath
        cases h
        refine ⟨images.length, List.getElem?_concat_length, hpath, ?_⟩
        rw [← Bool.not_eq_true]
        intro hsup
        obtain ⟨j, later, hlt, hj, -⟩ := superseded_iff.1 hsup
        obtain ⟨hbound, -⟩ := List.getElem?_eq_some_iff.1 hj
        rw [List.length_append, List.length_singleton] at hbound
        omega
      · rename_i hpath
        obtain ⟨i, hi, himage, hnewest⟩ := ih h
        obtain ⟨hbound, -⟩ := List.getElem?_eq_some_iff.1 hi
        refine ⟨i, by rw [List.getElem?_append_left hbound]; exact hi, himage, ?_⟩
        rw [← Bool.not_eq_true] at hnewest ⊢
        intro hsup
        obtain ⟨j, later, hlt, hj, hlater⟩ := superseded_iff.1 hsup
        rcases Nat.lt_or_ge j images.length with hin | hout
        · rw [List.getElem?_append_left hin] at hj
          exact hnewest (superseded_iff.2 ⟨j, later, hlt, hj, hlater⟩)
        · rw [List.getElem?_append_right hout, List.getElem?_singleton] at hj
          split at hj
          · cases hj
            exact hpath hlater
          · cases hj

theorem lastQueued_newest {path : π} {images : List (StorageImage π)} {bytes : List UInt8}
    (h : lastQueued path (images.map StorageImage.save) = some bytes) :
    ∃ i image, images[i]? = some image ∧ image.path = path ∧ image.bytes = bytes ∧
      superseded images i path = false := by
  rw [← latest_eq] at h
  obtain ⟨image, hlatest, hbytes⟩ := Option.map_eq_some_iff.1 h
  obtain ⟨i, hi, hpath, hnewest⟩ := latest_newest hlatest
  exact ⟨i, image, hi, hpath, hbytes, hnewest⟩

/-! ## The order of writes -/

/-- The image a step writes. -/
def Act.image : Act π → Option Nat
  | .retry image _ _ => some image
  | .write image _ _ => some image
  | _ => none

/-- Until a release, an image keeps its place. -/
theorem saves_prefix {act : Act π} (h : s.next act = some t) (hact : act ≠ .finished true) :
    s.images.map StorageImage.save <+: t.images.map StorageImage.save := by
  rw [saves_next h]
  exact note_prefix hact

theorem images_le {act : Act π} (h : s.next act = some t) (hact : act ≠ .finished true) :
    s.images.length ≤ t.images.length := by
  have hle := ( saves_prefix h hact).length_le
  rwa [List.length_map, List.length_map] at hle

/-- What the worker has passed it does not come back to. -/
theorem Past.next {act : Act π} {i : Nat} (hpast : Past s i) (hstep : s.next act = some t)
    (hact : act ≠ .finished true) : Past t i := by
  have hbound := Nat.lt_of_lt_of_le hpast.bound (images_le hstep hact)
  obtain ⟨hheld, -, -⟩ | ⟨rfl, rfl⟩ | ⟨rfl, -⟩ | ⟨rfl, k, hpending, rfl⟩ := next_cases hstep
  · refine ⟨hbound, ?_, fun k hk => hpast.writing k (hheld.writing k hk)⟩
    rw [hheld.pending]
    exact hpast.pending
  · obtain ⟨himages, -, -, hpending⟩ := startWorker_frame s
    refine ⟨hbound, fun k hk => ?_, fun k hk => ?_⟩
    · unfold Storage.append at hk
      dsimp only at hk
      rw [himages, hpending] at hk
      split at hk
      · cases hk
        exact hpast.bound
      · exact hpast.pending k hk
    · have hk : s.startWorker.worker = .writing k := hk
      unfold Storage.startWorker at hk
      split at hk
      · cases hk
      · exact hpast.writing k hk
  · exact absurd rfl hact
  · -- the image the worker takes was pending, and the next one comes behind it
    have hik := hpast.pending k hpending
    refine ⟨hbound, fun j hj => ?_, fun j hj => ?_⟩
    · dsimp only at hj
      split at hj
      · cases hj
        omega
      · cases hj
    · cases hj
      exact hik

/-- A step that writes: the image is past, and it is the worker's or the newest of its path. -/
theorem write_step {act : Act π} {i : Nat} (h : Orderly s) (hstep : s.next act = some t)
    (hwrites : act.image = some i) : Past t i ∧ ∃ image, s.images[i]? = some image ∧
      (s.worker = .writing i ∨ superseded s.images i image.path = false) := by
  cases act with
  | write k content ok =>
      cases hwrites
      have hnext := h.next hstep
      dsimp only [Storage.next, Storage.workerWrite] at hstep
      split at hstep
      · rename_i hworker
        obtain ⟨u, hwrite, rfl⟩ := Option.map_eq_some_iff.1 hstep
        obtain ⟨image, himage, -, rfl⟩ := write_some hwrite
        obtain ⟨hbound, hpending⟩ := h.writing i hworker
        refine ⟨⟨?_, hpending, fun k hk => by cases hk⟩, image, himage, Or.inl hworker⟩
        show i < (s.images.set i _).length
        rw [List.length_set]
        exact hbound
      · cases hstep
  | retry k content ok =>
      cases hwrites
      dsimp only [Storage.next, Storage.retry] at hstep
      split at hstep
      · rename_i j going hhost
        split at hstep
        · cases hstep
        · rename_i image himage
          split at hstep
          · cases hstep
          · rename_i hguard
            rw [not_or, not_or, not_ne_iff, Bool.not_eq_true] at hguard
            obtain ⟨u, hwrite, rfl⟩ := Option.map_eq_some_iff.1 hstep
            obtain ⟨_, -, -, rfl⟩ := write_some hwrite
            obtain ⟨hworker, -, -⟩ := h.retrying j going hhost
            have hpending := h.idleWorker hworker
            obtain ⟨hbound, -⟩ := List.getElem?_eq_some_iff.1 himage
            refine ⟨⟨?_, fun k hk => absurd (hk.symm.trans hpending) (by simp),
              fun k hk => absurd (hk.symm.trans hworker) (by simp)⟩, image, himage,
              Or.inr hguard.2.1⟩
            show i < (s.images.set i _).length
            rw [List.length_set]
            exact hbound
      · cases hstep
  | _ => cases hwrites

/-- From a write to a later state, without a release in between. -/
theorem Past.run {i : Nat} {steps : List (Storage π × Act π × Storage π)}
    (hrun : Run Storage.Step s steps t)
    (hkeep : ∀ x ∈ steps, x.2.1 ≠ .finished true) (hpast : Past s i) :
    Past t i ∧ s.images.map StorageImage.save <+: t.images.map StorageImage.save := by
  induction hrun with
  | nil => exact ⟨hpast, List.prefix_refl _⟩
  | cons hstep _ ih =>
      rw [List.forall_mem_cons] at hkeep
      obtain ⟨hpast', hprefix⟩ := ih hkeep.2 (hpast.next hstep hkeep.1)
      exact ⟨hpast', ( saves_prefix hstep hkeep.1).trans hprefix⟩

omit [DecidableEq π] in
theorem path_prefix {i : Nat} {image : StorageImage π}
    (h : s.images.map StorageImage.save <+: t.images.map StorageImage.save)
    (hi : s.images[i]? = some image) :
    ∃ image', t.images[i]? = some image' ∧ image'.save = image.save := by
  obtain ⟨hbound, -⟩ := List.getElem?_eq_some_iff.1 hi
  obtain ⟨rest, hrest⟩ := h
  have hsave : (t.images.map StorageImage.save)[i]? = some image.save := by
    rw [← hrest, List.getElem?_append_left (by rw [List.length_map]; exact hbound),
      List.getElem?_map, hi]
    rfl
  rw [List.getElem?_map] at hsave
  exact Option.map_eq_some_iff.1 hsave

/-- No older image of a path is written after a newer one. -/
def WritesInOrder (steps : List (Storage π × Act π × Storage π)) : Prop :=
  ∀ a b c u v w x act act' i j image image', steps = a ++ (u, act, v) :: b ++ (w, act', x) :: c →
    (∀ y ∈ b, y.2.1 ≠ .finished true) → act.image = some i → act'.image = some j →
    u.images[i]? = some image → w.images[j]? = some image' → image.path = image'.path → i ≤ j

theorem writes_in_order {steps : List (Storage π × Act π × Storage π)} (h : Orderly s)
    (hrun : Run Storage.Step s steps t) : WritesInOrder steps := by
  intro a b c u v w x act act' i j image image' heq hkeep hi hj himage himage' hpath
  rw [heq] at hrun
  obtain ⟨hbefore, hsecond, -⟩ := hrun.split
  obtain ⟨hstart, hfirst, hbetween⟩ := hbefore.split
  have hu := h.run hstart
  obtain ⟨hpast, -⟩ := write_step hu hfirst hi
  have hact : act ≠ .finished true := fun hne => by rw [hne] at hi; cases hi
  obtain ⟨hpast', hprefix⟩ := hpast.run hbetween hkeep
  obtain ⟨-, found, hfound, hlate⟩ := write_step ((hu.next hfirst).run hbetween) hsecond hj
  obtain rfl : found = image' := Option.some.inj (hfound.symm.trans himage')
  rcases hlate with hworker | hnewest
  · exact Nat.le_of_lt (hpast'.writing j hworker)
  · -- the retry loop takes the newest image of the path
    obtain ⟨kept, hkept, hsave⟩ := path_prefix (( saves_prefix hfirst hact).trans hprefix) himage
    by_contra hlt
    have hsup : superseded w.images j found.path = true :=
      superseded_iff.2 ⟨i, kept, by omega, hkept, (congrArg Prod.fst hsave).trans hpath⟩
    rw [hnewest] at hsup
    cases hsup

/-! ## Finishing -/

/-- **A finish that reports success**: the last image of every path is in its file. -/
theorem finished_durable (h : Orderly s) (hstep : s.next (.finished true) = some t) {path : π}
    {bytes : List UInt8} (hlast : lastQueued path (s.images.map StorageImage.save) = some bytes) :
    t.files path = some bytes ∧ ∃ image ∈ s.images, image.path = path ∧ image.bytes = bytes ∧
      image.success = true := by
  obtain ⟨i, image, hi, hpath, hbytes, hnewest⟩ := lastQueued_newest hlast
  dsimp only [Storage.next, Storage.finished] at hstep
  split at hstep
  · rename_i n ok hhost
    obtain ⟨-, -, hsettled⟩ := h.retrying n ok hhost
    split at hstep
    · cases hstep
    · rename_i hguard
      rw [not_or, not_ne_iff, not_ne_iff] at hguard
      rw [if_pos hguard.2] at hstep
      cases hstep
      obtain ⟨hbound, -⟩ := List.getElem?_eq_some_iff.1 hi
      rw [hguard.1] at hsettled
      have hsuccess : image.success = true := by
        refine (hsettled hguard.2 i image hbound hi).resolve_left ?_
        rw [hpath, hnewest]
        exact Bool.false_ne_true
      have hdurable := (h.written i image hi hsuccess).2
      refine ⟨?_, image, List.mem_of_getElem? hi, hpath, hbytes, hsuccess⟩
      show s.files path = some bytes
      rw [← hpath, ← hbytes]
      exact hdurable (by rw [hpath]; exact hnewest)
  · cases hstep

/-- A finish that fails keeps every image. -/
theorem finished_keeps (hstep : s.next (.finished false) = some t) :
    t.images = s.images ∧ t.host = .idle := by
  rw [finished_some (s := s) hstep]
  exact ⟨rfl, rfl⟩

/-- A run that leads on from `s` with the same images. -/
def Leads (s t : Storage π) : Prop :=
  t.images.map StorageImage.save = s.images.map StorageImage.save ∧
    ∃ steps, Run Storage.Step s steps t

theorem Leads.refl (s : Storage π) : Leads s s := ⟨rfl, [], .nil s⟩

theorem Leads.step {u : Storage π} {act : Act π} (hstep : s.next act = some u)
    (hsaves : u.images.map StorageImage.save = s.images.map StorageImage.save) (h : Leads u t) :
    Leads s t := by
  obtain ⟨hrest, steps, hrun⟩ := h
  exact ⟨hrest.trans hsaves, _, .cons hstep hrun⟩

theorem Leads.trans {u : Storage π} (h : Leads s t) (h' : Leads t u) : Leads s u := by
  obtain ⟨hsaves, steps, hrun⟩ := h
  obtain ⟨hsaves', steps', hrun'⟩ := h'
  exact ⟨hsaves'.trans hsaves, _, hrun.append hrun'⟩

theorem write_succeeds {i : Nat} {image : StorageImage π} (h : s.images[i]? = some image) :
    ∃ t, s.write i (some image.bytes) true = some t ∧ t.pending = s.pending ∧
    t.stopping = s.stopping ∧
      t.host = s.host ∧ t.images.length = s.images.length ∧
      t.images.map StorageImage.save = s.images.map StorageImage.save := by
  unfold Storage.write
  rw [h]
  exact ⟨_, if_neg fun hne => hne.2 rfl, rfl, rfl, rfl, List.length_set, map_save_set h true⟩

/-- The worker writes what is pending and returns. -/
theorem worker_drains : ∀ (n : Nat) {s : Storage π}, Orderly s → s.host = .joining →
    s.stopping = true →
    s.worker = .waiting → (∀ k, s.pending = some k → s.images.length - k ≤ n) →
    ∃ t, Leads s t ∧ t.host = .joining ∧ t.worker = .exited := by
  intro n
  have hexit : ∀ s : Storage π, s.host = .joining → s.stopping = true → s.worker = .waiting →
      s.pending = none → ∃ t, Leads s t ∧ t.host = .joining ∧ t.worker = .exited := by
    intro s hhost hstopping hworker hpending
    have hstep : s.next .exit = some { s with worker := .exited } :=
      if_pos ⟨hworker, hpending, hstopping⟩
    exact ⟨_, .step hstep rfl (.refl _), hhost, rfl⟩
  induction n with
  | zero =>
      intro s h hhost hstopping hworker hleft
      refine hexit s hhost hstopping hworker ?_
      cases hp : s.pending with
      | none => rfl
      | some k =>
          have hbound := (h.pending k hp).1
          have hle := hleft k hp
          omega
  | succ n ih =>
      intro s h hhost hstopping hworker hleft
      cases hp : s.pending with
      | none => exact hexit s hhost hstopping hworker hp
      | some k =>
          have hbound := (h.pending k hp).1
          have hk := List.getElem?_eq_getElem hbound
          -- take the pending image, write it, and go on with the next
          have htake : s.next .take = some { s with
              worker := .writing k
              pending := if k + 1 < s.images.length then some (k + 1) else none } := by
            dsimp only [Storage.next, Storage.take]
            rw [hworker, hp]
          obtain ⟨u, hwrite, hpending, hstop, hhost', hlength, hsaves⟩ := write_succeeds
            (s := { s with
              worker := .writing k
              pending := if k + 1 < s.images.length then some (k + 1) else none }) hk
          have hwritten : Storage.next { s with
              worker := .writing k
              pending := if k + 1 < s.images.length then some (k + 1) else none }
              (.write k (some s.images[k].bytes) true) = some { u with worker := .waiting } := by
            dsimp only [Storage.next, Storage.workerWrite]
            rw [if_pos rfl, hwrite]
            rfl
          obtain ⟨t, hleads, hdone⟩ := ih (s := { u with worker := .waiting })
            ((h.next htake).next hwritten) (hhost'.trans hhost) (hstop.trans hstopping) rfl
            (fun j hj => by
              have hj : u.pending = some j := hj
              rw [hpending] at hj
              dsimp only at hj
              split at hj
              · cases hj
                have hle := hleft k hp
                show u.images.length - (k + 1) ≤ n
                rw [hlength]
                show s.images.length - (k + 1) ≤ n
                omega
              · cases hj)
          exact ⟨t, .step htake rfl (.step hwritten hsaves hleads), hdone⟩

/-- The retry loop gets through when every write succeeds. -/
theorem retries_succeed : ∀ (n : Nat) {s : Storage π} {i : Nat}, s.host = .retrying i true →
    i + n = s.images.length → ∃ t, Leads s t ∧ t.host = .retrying t.images.length true := by
  intro n
  induction n with
  | zero =>
      intro s i hhost hlen
      refine ⟨s, .refl s, ?_⟩
      rw [hhost, ← hlen, Nat.add_zero]
  | succ n ih =>
      intro s i hhost hlen
      have hi := List.getElem?_eq_getElem (show i < s.images.length by omega)
      by_cases hskip : superseded s.images i s.images[i].path = true ∨ s.images[i].success = true
      · have hpass : s.next .pass = some { s with host := .retrying (i + 1) true } := by
          dsimp only [Storage.next, Storage.pass]
          rw [hhost]
          dsimp only
          rw [hi]
          exact if_pos hskip
        obtain ⟨t, hleads, hend⟩ := ih (s := { s with host := .retrying (i + 1) true }) rfl
          (show i + 1 + n = s.images.length by omega)
        exact ⟨t, .step hpass rfl hleads, hend⟩
      · obtain ⟨u, hwrite, -, -, -, hlength, hsaves⟩ := write_succeeds hi
        have hretry : s.next (.retry i (some s.images[i].bytes) true) =
            some { u with host := .retrying (i + 1) true } := by
          dsimp only [Storage.next, Storage.retry]
          rw [hhost]
          dsimp only
          rw [hi]
          dsimp only
          rw [if_neg (by rw [not_or]; exact ⟨fun hne => hne rfl, hskip⟩), hwrite]
          rfl
        obtain ⟨t, hleads, hend⟩ := ih (s := { u with host := .retrying (i + 1) true }) rfl
          (show i + 1 + n = u.images.length by omega)
        exact ⟨t, .step hretry hsaves hleads, hend⟩

/-- A run of the threads that ends in a finish that reports success, without losing an image. -/
def CanFinish (s : Storage π) : Prop := ∃ t u, Leads s t ∧ t.next (.finished true) = some u

theorem CanFinish.of_leads (h : Leads s t) (ht : CanFinish t) : CanFinish s := by
  obtain ⟨u, v, hleads, hend⟩ := ht
  exact ⟨u, v, h.trans hleads, hend⟩

theorem CanFinish.step {act : Act π} (hstep : s.next act = some t)
    (hsaves : t.images.map StorageImage.save = s.images.map StorageImage.save) (ht : CanFinish t) :
    CanFinish s := ht.of_leads (.step hstep hsaves (.refl t))

theorem canFinish_retrying (hhost : s.host = .retrying 0 true) : CanFinish s := by
  obtain ⟨t, hleads, hend⟩ := retries_succeed s.images.length hhost (Nat.zero_add _)
  refine ⟨t, { t with host := .idle, images := [], pending := none }, hleads, ?_⟩
  dsimp only [Storage.next, Storage.finished]
  rw [hend]
  dsimp only
  rw [if_neg (by simp), if_pos rfl]

theorem canFinish_exited (hhost : s.host = .joining) (hworker : s.worker = .exited) :
    CanFinish s := by
  have hjoin : s.next .join = some { s with worker := .none, host := .retrying 0 true } :=
    if_pos ⟨hhost, hworker⟩
  exact .step hjoin rfl (canFinish_retrying rfl)

theorem canFinish_waiting (h : Orderly s) (hhost : s.host = .joining)
    (hstopping : s.stopping = true)
    (hworker : s.worker = .waiting) : CanFinish s := by
  obtain ⟨t, hleads, hhost', hexited⟩ := worker_drains s.images.length h hhost hstopping hworker
    fun k _ => Nat.sub_le _ _
  exact (canFinish_exited hhost' hexited).of_leads hleads

theorem canFinish_joining (h : Orderly s) (hhost : s.host = .joining)
    (hstopping : s.stopping = true)
    (hworker : s.worker ≠ .none) : CanFinish s := by
  cases hw : s.worker with
  | none => exact absurd hw hworker
  | waiting => exact canFinish_waiting h hhost hstopping hw
  | writing k =>
      have hbound := (h.writing k hw).1
      have hk := List.getElem?_eq_getElem hbound
      obtain ⟨u, hwrite, -, hstop, hhost', -, hsaves⟩ := write_succeeds hk
      have hwritten : s.next (.write k (some s.images[k].bytes) true) =
        some { u with worker := .waiting } := by
        dsimp only [Storage.next, Storage.workerWrite]
        rw [if_pos hw, hwrite]
        rfl
      exact .step hwritten hsaves
        (canFinish_waiting (h.next hwritten) (hhost'.trans hhost) (hstop.trans hstopping) rfl)
  | exited => exact canFinish_exited hhost hw

/-- **From any state in which the host is free, a finish can succeed.** -/
theorem finish_possible (h : Orderly s) (hhost : s.host = .idle) : CanFinish s := by
  have hfinish : s.next .finish = some s.finish := if_pos hhost
  have hnext := h.next hfinish
  by_cases hworker : s.worker = .none
  · have heq : s.finish = { s with host := .retrying 0 true } := if_pos hworker
    rw [heq] at hfinish
    exact .step hfinish rfl (canFinish_retrying rfl)
  · have heq : s.finish = { s with stopping := true, host := .joining } := if_neg hworker
    rw [heq] at hfinish hnext
    exact .step hfinish rfl (canFinish_joining hnext rfl rfl hworker)

end Steps

/-! ## The queue -/

section Queue

variable {s : Storage π} {path : π} {sram : List UInt8} {files : π → Option (List UInt8)}
  {steps : List (Storage π × Act π × Storage π)}

/-- What `SmwCoopReadQueuedStorage` does, in terms of what has been queued. -/
theorem readQueued_eq (s : Storage π) : s.readQueued =
    match lastQueued s.path (s.images.map StorageImage.save) with
    | none => some (false, s)
    | some bytes => if bytes.length ≠ s.sram.length then none
        else some (true, { s with sram := bytes }) := by
  rw [← latest_eq]
  unfold Storage.readQueued
  cases latest s.path s.images <;> rfl

/-- **No save is lost or rolled back**, whatever the order of steps and whichever writes fail.  The
host reads the last image queued for its path, and none when none is retained; writes come in the
order of the images; a finish that reports success has every last image in its file; one that fails
keeps them all, and another can still write them. -/
theorem storage_queue (hrun : Run Storage.Step (Storage.start path sram files) steps s) :
    (s.readQueued = match lastQueued s.path (queued steps) with
      | none => some (false, s)
      | some bytes => if bytes.length ≠ s.sram.length then none
          else some (true, { s with sram := bytes })) ∧
    WritesInOrder steps ∧
    (∀ a u v c, steps = a ++ (u, .finished true, v) :: c → ∀ path bytes,
      lastQueued path (queued a) = some bytes → v.files path = some bytes ∧
        ∃ image ∈ u.images, image.path = path ∧ image.bytes = bytes ∧ image.success = true) ∧
    ∀ a u v c, steps = a ++ (u, .finished false, v) :: c →
      v.images = u.images ∧ v.images.map StorageImage.save = queued a ∧
      ∃ more t w, Run Storage.Step v more t ∧ t.next (.finished true) = some w ∧
        ∀ path bytes, lastQueued path (queued a) = some bytes → w.files path = some bytes := by
  have hstart := Orderly.start path sram files
  refine ⟨?_, writes_in_order hstart hrun, fun a u v c heq path' bytes hlast => ?_,
    fun a u v c heq => ?_⟩
  · have hsaves : s.images.map StorageImage.save = queued steps := saves_run hrun
    rw [readQueued_eq, hsaves]
  · rw [heq] at hrun
    obtain ⟨hbefore, hfinished, -⟩ := hrun.split
    have hsaves : u.images.map StorageImage.save = queued a := saves_run hbefore
    exact finished_durable (hstart.run hbefore) hfinished (by rw [hsaves]; exact hlast)
  · rw [heq] at hrun
    obtain ⟨hbefore, hfinished, -⟩ := hrun.split
    have hsaves : u.images.map StorageImage.save = queued a := saves_run hbefore
    obtain ⟨himages, hidle⟩ := finished_keeps hfinished
    have hv := (hstart.run hbefore).next hfinished
    have hkept : v.images.map StorageImage.save = queued a := by
      rw [himages]
      exact hsaves
    obtain ⟨t, w, ⟨hsame, more, hmore⟩, hend⟩ := finish_possible hv hidle
    refine ⟨himages, hkept, more, t, w, hmore, hend, fun path' bytes hlast => ?_⟩
    refine (finished_durable (hv.run hmore) hend ?_).1
    rw [hsame, hkept]
    exact hlast

end Queue

/-- Two saves of one file are queued, the second while the first is being written; every write
fails, also the retry. -/
def failingActs : List (Act Nat) :=
  [.queue .accepted, .guest [2], .take, .queue .accepted, .write 0 none false, .take,
    .write 1 none false, .finish, .exit, .join, .pass, .retry 1 none false, .finished false]

theorem storage_queue_failing : ∃ steps s,
    Run Storage.Step (Storage.start 0 [1] fun _ => none) steps s ∧
    queued steps = [(0, [1]), (0, [2])] ∧
      s.readQueued = some (true, { s with sram := [2] }) := by
  have hruns : (pathOf Storage.next (Storage.start 0 [1] fun _ => none) failingActs).map
      (fun r => (queued r.1, r.2.path, r.2.sram)) = some ([(0, [1]), (0, [2])], 0, [2]) := by decide
  obtain ⟨⟨steps, s⟩, hpath, hfacts⟩ := Option.map_eq_some_iff.1 hruns
  obtain ⟨hqueued, hfacts⟩ := Prod.mk.inj hfacts
  obtain ⟨hsave, hsram⟩ := Prod.mk.inj hfacts
  have hrun : Run Storage.Step (Storage.start 0 [1] fun _ => none) steps s := Run.path hpath
  have hlast : lastQueued s.path (queued steps) = some [2] := by
    rw [show s.path = 0 from hsave, show queued steps = [(0, [1]), (0, [2])] from hqueued]
    decide
  have hread := (storage_queue hrun).1
  rw [hlast] at hread
  exact ⟨steps, s, hrun, hqueued,
    hread.trans (if_neg (by rw [show s.sram = [2] from hsram]; decide))⟩

end SmwRecomp.Sram
