import SmwRecomp.Sram.Queue

/-!
# The queue stays orderly

The invariant of every interleaving of the host, the worker and failing writes.

* `Past` — no write of this image, or of one before it, is to come from the worker.
* `Orderly` — the invariant; `Orderly.next` — each step keeps it.
-/

set_option autoImplicit false

namespace SmwRecomp.Sram

variable {π : Type}

/-! ## Images -/

theorem map_path_set {images : List (StorageImage π)} {k : Nat} {image : StorageImage π}
    (hk : images[k]? = some image) (success : Bool) :
    (images.set k { image with success := success }).map StorageImage.path =
      images.map StorageImage.path := by
  rw [List.map_set]
  refine List.ext_getElem? fun j => ?_
  rw [List.getElem?_set, List.getElem?_map]
  split
  · rename_i hkj
    subst hkj
    obtain ⟨hlt, -⟩ := List.getElem?_eq_some_iff.1 hk
    rw [hk]
    simp [hlt]
  · rfl

variable [DecidableEq π]

section Images

variable {images images' : List (StorageImage π)} {i : Nat} {path : π}

theorem superseded_iff : superseded images i path = true ↔
    ∃ j image, i < j ∧ images[j]? = some image ∧ image.path = path := by
  unfold superseded
  rw [List.any_eq_true]
  constructor
  · rintro ⟨image, hmem, hpath⟩
    obtain ⟨j, hj⟩ := List.mem_iff_getElem?.1 hmem
    rw [List.getElem?_drop] at hj
    exact ⟨i + 1 + j, image, by omega, hj, (of_decide_eq_true hpath).symm⟩
  · rintro ⟨j, image, hlt, hj, hpath⟩
    refine ⟨image, List.mem_iff_getElem?.2 ⟨j - (i + 1), ?_⟩, decide_eq_true hpath.symm⟩
    rw [List.getElem?_drop, ← hj]
    congr 1
    omega

/-- Only the paths matter. -/
theorem superseded_congr (h : images'.map StorageImage.path = images.map StorageImage.path) :
    superseded images' i path = superseded images i path := by
  have hpaths : ∀ l : List (StorageImage π), superseded l i path =
      ((l.map StorageImage.path).drop (i + 1)).any (fun p => decide (path = p)) := fun l => by
    unfold superseded
    rw [← List.map_drop, List.any_map]
    rfl
  rw [hpaths, hpaths, h]

end Images

/-! ## The invariant -/

/-- No write of image `i`, or of one before it, is to come from the worker. -/
structure Past (s : Storage π) (i : Nat) : Prop where
  bound : i < s.images.length
  pending : ∀ k, s.pending = some k → i < k
  writing : ∀ k, s.worker = .writing k → i < k

/-- What an image that counts as written says about its file. -/
def Durable (s : Storage π) (i : Nat) (image : StorageImage π) : Prop :=
  superseded s.images i image.path = false → s.files image.path = some image.bytes

structure Orderly (s : Storage π) : Prop where
  pending : ∀ k, s.pending = some k → k < s.images.length ∧ s.worker ≠ .none ∧ s.worker ≠ .exited
  writing : ∀ k, s.worker = .writing k → k < s.images.length ∧ ∀ j, s.pending = some j → k < j
  exited : s.worker = .exited → s.host = .joining
  stopping : s.worker ≠ .none → s.stopping = true → s.host = .joining
  retrying : ∀ n ok, s.host = .retrying n ok → s.worker = .none ∧ n ≤ s.images.length ∧
    (ok = true → ∀ i image, i < n → s.images[i]? = some image →
      superseded s.images i image.path = true ∨ image.success = true)
  written : ∀ i image, s.images[i]? = some image → image.success = true → Past s i ∧
    Durable s i image

theorem Orderly.start (path : π) (sram : List UInt8) (files : π → Option (List UInt8)) :
    Orderly (Storage.start path sram files) := by
  constructor
  · intro k h
    cases h
  · intro k h
    cases h
  · intro h
    cases h
  · intro _ h
    cases h
  · intro n ok h
    cases h
  · intro i image h
    cases h

section Steps

variable {s t : Storage π}

/-- A step that touches neither the list, the worker's pointers nor the files. -/
theorem Orderly.quiet (h : Orderly s) (himages : t.images = s.images)
    (hpending : t.pending = s.pending)
    (hfiles : t.files = s.files) (hworker : t.worker = s.worker)
    (hstopping : t.stopping = s.stopping)
    (hhost : t.host = s.host) : Orderly t := by
  constructor
  · rw [hpending, himages, hworker]
    exact h.pending
  · rw [hpending, himages, hworker]
    exact h.writing
  · rw [hworker, hhost]
    exact h.exited
  · rw [hworker, hstopping, hhost]
    exact h.stopping
  · rw [himages, hworker, hhost]
    exact h.retrying
  · intro i image hi hsuccess
    rw [himages] at hi
    obtain ⟨hpast, hdurable⟩ := h.written i image hi hsuccess
    refine ⟨⟨by rw [himages]; exact hpast.bound, by rw [hpending]; exact hpast.pending,
      by rw [hworker]; exact hpast.writing⟩, ?_⟩
    unfold Durable
    rw [himages, hfiles]
    exact hdurable

theorem write_some {i : Nat} {content : Option (List UInt8)} {ok : Bool}
    (h : s.write i content ok = some t) :
    ∃ image, s.images[i]? = some image ∧ (ok = true → content = some image.bytes) ∧ t = { s with
      files := Function.update s.files image.path content
      images := s.images.set i { image with success := ok } } := by
  unfold Storage.write at h
  split at h
  · cases h
  · rename_i image himage
    split at h
    · cases h
    · rename_i hcontent
      cases h
      exact ⟨image, himage, fun hok => by_contra fun hne => hcontent ⟨hok, hne⟩, rfl⟩

/-- After a write that comes last for its path so far, what counts as written is in the files. -/
theorem Orderly.durable (h : Orderly s) {k : Nat} {image : StorageImage π}
    {content : Option (List UInt8)}
    {ok : Bool} (himage : s.images[k]? = some image)
    (hcontent : ok = true → content = some image.bytes)
    (hlast : ∀ i other, i ≠ k → s.images[i]? = some other → other.success = true →
      other.path = image.path →
      i < k) (ht : t.images = s.images.set k { image with success := ok })
    (hfiles : t.files = Function.update s.files image.path content) {i : Nat}
      {other : StorageImage π}
    (hother : t.images[i]? = some other) (hsuccess : other.success = true) : Durable t i other := by
  have hpaths : t.images.map StorageImage.path = s.images.map StorageImage.path := by
    rw [ht]
    exact map_path_set himage ok
  intro hnewest
  rw [superseded_congr hpaths] at hnewest
  rw [ht, List.getElem?_set] at hother
  rw [hfiles]
  split at hother
  · split at hother
    · cases hother
      rw [Function.update_self]
      exact hcontent hsuccess
    · cases hother
  · rename_i hne
    by_cases hpath : other.path = image.path
    · have hlt := hlast i other (Ne.symm hne) hother hsuccess hpath
      have hsup : superseded s.images i other.path = true :=
        superseded_iff.2 ⟨k, image, hlt, himage, hpath.symm⟩
      rw [hnewest] at hsup
      cases hsup
    · rw [Function.update_of_ne hpath]
      exact (h.written i other hother hsuccess).2 hnewest

theorem Orderly.workerWrite (h : Orderly s) {k : Nat} {content : Option (List UInt8)} {ok : Bool}
    (hstep : s.workerWrite k content ok = some t) : Orderly t := by
  unfold Storage.workerWrite at hstep
  split at hstep
  · rename_i hworker
    obtain ⟨u, hwrite, rfl⟩ := Option.map_eq_some_iff.1 hstep
    obtain ⟨image, himage, hcontent, rfl⟩ := write_some hwrite
    obtain ⟨hbound, hpending⟩ := h.writing k hworker
    have hlast : ∀ i other, i ≠ k → s.images[i]? = some other → other.success = true →
        other.path = image.path → i < k := fun i other _ hi hsuccess _ =>
      (h.written i other hi hsuccess).1.writing k hworker
    have hstopping := h.stopping (by rw [hworker]; exact fun hne => by cases hne)
    refine ⟨fun j hj => ⟨?_, (fun hn => nomatch hn), (fun hn => nomatch hn)⟩,
      (fun j hj => nomatch hj), (fun hn => nomatch hn), fun _ hs => hstopping hs, fun n ok' hhost =>
      ?_, fun i other hi hsuccess => ?_⟩
    · show j < (s.images.set k { image with success := ok }).length
      rw [List.length_set]
      exact (h.pending j hj).1
    · have hnone := (h.retrying n ok' hhost).1
      rw [hworker] at hnone
      cases hnone
    · refine ⟨⟨?_, fun j hj => ?_, (fun j hj => nomatch hj)⟩,
        h.durable himage hcontent hlast rfl rfl hi hsuccess⟩
      · obtain ⟨hlt, -⟩ := List.getElem?_eq_some_iff.1 hi
        exact hlt
      · by_cases hik : i = k
        · rw [hik]
          exact hpending j hj
        · have hother : s.images[i]? = some other := by
            rw [← hi]
            exact (List.getElem?_set_ne (Ne.symm hik)).symm
          exact (h.written i other hother hsuccess).1.pending j hj
  · cases hstep

theorem Orderly.idleWorker (h : Orderly s) (hworker : s.worker = .none) : s.pending = none := by
  cases hp : s.pending with
  | none => rfl
  | some k => exact absurd hworker (h.pending k hp).2.1

theorem Orderly.retry (h : Orderly s) {k : Nat} {content : Option (List UInt8)} {ok : Bool}
    (hstep : s.retry k content ok = some t) : Orderly t := by
  unfold Storage.retry at hstep
  split at hstep
  · rename_i j going hhost
    split at hstep
    · cases hstep
    rename_i image himage
    split at hstep
    · cases hstep
    rename_i hguard
    rw [not_or, not_or, not_ne_iff, Bool.not_eq_true] at hguard
    obtain ⟨rfl, hnewest, -⟩ := hguard
    obtain ⟨u, hwrite, rfl⟩ := Option.map_eq_some_iff.1 hstep
    obtain ⟨image', himage', hcontent, rfl⟩ := write_some hwrite
    obtain rfl : image = image' := Option.some.inj (himage.symm.trans himage')
    obtain ⟨hworker, hle, hsettled⟩ := h.retrying j going hhost
    have hpending := h.idleWorker hworker
    have hlast : ∀ i other, i ≠ j → s.images[i]? = some other → other.success = true →
        other.path = image.path → i < j := by
      intro i other hne hi _ hpath
      by_contra hge
      have hsup : superseded s.images j image.path = true :=
        superseded_iff.2 ⟨i, other, by omega, hi, hpath⟩
      rw [hnewest] at hsup
      cases hsup
    obtain ⟨hbound, -⟩ := List.getElem?_eq_some_iff.1 himage
    have hpaths : (s.images.set j { image with success := ok }).map StorageImage.path =
        s.images.map StorageImage.path := map_path_set himage ok
    refine ⟨fun k hk => ?_, fun k hk => ?_, fun hn => ?_, fun hn => absurd hworker hn,
      fun n ok' hhost' => ?_, fun i other hi hsuccess => ⟨⟨?_, fun k hk => ?_, fun k hk => ?_⟩,
        h.durable himage hcontent hlast rfl rfl hi hsuccess⟩⟩
    · exact absurd (hk.symm.trans hpending) (by simp)
    · exact absurd (hk.symm.trans hworker) (by simp)
    · exact absurd (hn.symm.trans hworker) (by simp)
    · cases hhost'
      refine ⟨hworker, ?_, fun hok i other hi hother => ?_⟩
      · show j + 1 ≤ (s.images.set j { image with success := ok }).length
        rw [List.length_set]
        exact hbound
      · rw [Bool.and_eq_true] at hok
        rw [superseded_congr hpaths]
        by_cases hij : i = j
        · rw [hij] at hother
          rw [List.getElem?_set_self hbound] at hother
          cases hother
          exact Or.inr hok.2
        · rw [List.getElem?_set_ne (Ne.symm hij)] at hother
          exact hsettled hok.1 i other (by omega) hother
    · obtain ⟨hlt, -⟩ := List.getElem?_eq_some_iff.1 hi
      exact hlt
    · exact absurd (hk.symm.trans hpending) (by simp)
    · exact absurd (hk.symm.trans hworker) (by simp)
  · cases hstep

theorem Orderly.startWorker (h : Orderly s) (hhost : s.host = .idle) :
    Orderly s.startWorker ∧ s.startWorker.worker ≠ .none ∧ s.startWorker.worker ≠ .exited ∧
      s.startWorker.host = .idle := by
  unfold Storage.startWorker
  split
  · rename_i hworker
    have hpending := h.idleWorker hworker
    refine ⟨⟨fun k hk => ?_, (fun k hk => nomatch hk), (fun hn => nomatch hn),
      (fun _ hs => nomatch hs), fun n ok hn => ?_, fun i image hi hsuccess => ?_⟩,
      (fun hn => nomatch hn), (fun hn => nomatch hn), hhost⟩
    · exact absurd (hk.symm.trans hpending) (by simp)
    · exact absurd (hn.symm.trans hhost) (by simp)
    · obtain ⟨hpast, hdurable⟩ := h.written i image hi hsuccess
      exact ⟨⟨hpast.bound, hpast.pending, (fun k hk => nomatch hk)⟩, hdurable⟩
  · rename_i hworker
    refine ⟨h, hworker, fun hexited => ?_, hhost⟩
    exact absurd ((h.exited hexited).symm.trans hhost) (by simp)

theorem Orderly.append (h : Orderly s) (hworker : s.worker ≠ .none) (hexited : s.worker ≠ .exited)
    (hhost : s.host = .idle) : Orderly s.append := by
  have hlength : s.append.images.length = s.images.length + 1 := by
    show (s.images ++ [_]).length = _
    rw [List.length_append, List.length_singleton]
  -- a pending image stays the first one; without one it is the new image
  have hpending : ∀ k, s.append.pending = some k → s.pending = some k ∨ k = s.images.length := by
    intro k hk
    unfold Storage.append at hk
    dsimp only at hk
    split at hk
    · exact Or.inr (Option.some.inj hk).symm
    · exact Or.inl hk
  refine ⟨fun k hk => ⟨?_, hworker, hexited⟩, fun k hk => ⟨?_, fun j hj => ?_⟩,
    h.exited, h.stopping, fun n ok hn => ?_, fun i image hi hsuccess => ?_⟩
  · rw [hlength]
    rcases hpending k hk with hk | rfl
    · exact Nat.lt_succ_of_lt (h.pending k hk).1
    · exact Nat.lt_succ_self _
  · rw [hlength]
    exact Nat.lt_succ_of_lt (h.writing k hk).1
  · rcases hpending j hj with hj | rfl
    · exact (h.writing k hk).2 j hj
    · exact (h.writing k hk).1
  · exact absurd ((show s.host = _ from hn).symm.trans hhost) (by simp)
  · have hold : s.images[i]? = some image := by
      rcases Nat.lt_or_ge i s.images.length with hlt | hge
      · rw [← hi]
        exact (List.getElem?_append_left hlt).symm
      · have hnew : (s.images ++ [⟨s.path, s.sram, false⟩])[i]? = some image := hi
        rw [List.getElem?_append_right hge, List.getElem?_singleton] at hnew
        split at hnew
        · cases hnew
          cases hsuccess
        · cases hnew
    obtain ⟨hpast, hdurable⟩ := h.written i image hold hsuccess
    refine ⟨⟨by rw [hlength]; exact Nat.lt_succ_of_lt hpast.bound, fun k hk => ?_, hpast.writing⟩,
      fun hnewest => hdurable ?_⟩
    · rcases hpending k hk with hk | rfl
      · exact hpast.pending k hk
      · exact hpast.bound
    · rw [← Bool.not_eq_true] at hnewest ⊢
      intro hsup
      obtain ⟨j, later, hlt, hj, hpath⟩ := superseded_iff.1 hsup
      obtain ⟨hbound, -⟩ := List.getElem?_eq_some_iff.1 hj
      refine hnewest (superseded_iff.2 ⟨j, later, hlt, ?_, hpath⟩)
      rw [← hj]
      exact List.getElem?_append_left hbound

theorem Orderly.queue (h : Orderly s) (hhost : s.host = .idle) {outcome : Queued}
    (hstep : s.queue outcome = some t) : Orderly t := by
  cases outcome with
  | skipped =>
      dsimp only [Storage.queue] at hstep
      split at hstep
      · cases hstep
        exact h
      · cases hstep
  | unallocated =>
      dsimp only [Storage.queue] at hstep
      split at hstep
      · cases hstep
      · cases hstep
        exact h
  | threadless =>
      dsimp only [Storage.queue] at hstep
      split at hstep
      · cases hstep
      · rename_i hguard
        rw [not_or, not_ne_iff] at hguard
        cases hstep
        exact ⟨h.pending, h.writing, h.exited, fun hworker => absurd hguard.2 hworker, h.retrying,
          fun i image hi hsuccess => ⟨⟨(h.written i image hi hsuccess).1.bound,
            (h.written i image hi hsuccess).1.pending, (h.written i image hi hsuccess).1.writing⟩,
            (h.written i image hi hsuccess).2⟩⟩
  | accepted =>
      dsimp only [Storage.queue] at hstep
      split at hstep
      · cases hstep
      · cases hstep
        obtain ⟨hstarted, hworker, hexited, hidle⟩ := h.startWorker hhost
        exact hstarted.append hworker hexited hidle

omit [DecidableEq π] in
theorem Past.congr {i : Nat} (h : Past s i) (himages : t.images = s.images)
    (hpending : ∀ k, t.pending = some k → i < k) (hwriting : ∀ k, t.worker = .writing k → i < k) :
    Past t i :=
  ⟨by rw [himages]; exact h.bound, hpending, hwriting⟩

theorem Orderly.finish (h : Orderly s) : Orderly s.finish := by
  unfold Storage.finish
  split
  · rename_i hworker
    refine ⟨h.pending, h.writing, fun hexited => absurd (hexited.symm.trans hworker) (by simp),
      fun hn => absurd hworker hn, fun n ok hn => ?_, fun i image hi hsuccess => ?_⟩
    · cases hn
      exact ⟨hworker, Nat.zero_le _, fun _ i _ hi => absurd hi (Nat.not_lt_zero i)⟩
    · obtain ⟨hpast, hdurable⟩ := h.written i image hi hsuccess
      exact ⟨hpast.congr rfl hpast.pending hpast.writing, hdurable⟩
  · refine ⟨h.pending, h.writing, fun _ => rfl, fun _ _ => rfl, (fun n ok hn => nomatch hn),
      fun i image hi hsuccess => ?_⟩
    obtain ⟨hpast, hdurable⟩ := h.written i image hi hsuccess
    exact ⟨hpast.congr rfl hpast.pending hpast.writing, hdurable⟩

theorem Orderly.join (h : Orderly s) (hstep : s.join = some t) : Orderly t := by
  unfold Storage.join at hstep
  split at hstep
  · rename_i hguard
    cases hstep
    have hnone : ∀ k, s.pending ≠ some k := fun k hk => (h.pending k hk).2.2 hguard.2
    refine ⟨fun k hk => absurd hk (hnone k), (fun k hk => nomatch hk), (fun hn => nomatch hn),
      fun hn => absurd rfl hn, fun n ok hn => ?_, fun i image hi hsuccess => ?_⟩
    · cases hn
      exact ⟨rfl, Nat.zero_le _, fun _ i _ hi => absurd hi (Nat.not_lt_zero i)⟩
    · obtain ⟨hpast, hdurable⟩ := h.written i image hi hsuccess
      exact ⟨hpast.congr rfl hpast.pending (fun k hk => nomatch hk), hdurable⟩
  · cases hstep

theorem Orderly.pass (h : Orderly s) (hstep : s.pass = some t) : Orderly t := by
  unfold Storage.pass at hstep
  split at hstep
  · rename_i n ok hhost
    split at hstep
    · cases hstep
    rename_i image himage
    split at hstep
    · rename_i hguard
      cases hstep
      obtain ⟨hworker, -, hsettled⟩ := h.retrying n ok hhost
      obtain ⟨hbound, -⟩ := List.getElem?_eq_some_iff.1 himage
      refine ⟨h.pending, h.writing, fun hexited => absurd (hexited.symm.trans hworker) (by simp),
        fun hn => absurd hworker hn, fun n' ok' hn => ?_, fun i other hi hsuccess => ?_⟩
      · cases hn
        refine ⟨hworker, hbound, fun hok i other hi hother => ?_⟩
        rcases Nat.lt_succ_iff_lt_or_eq.1 hi with hlt | rfl
        · exact hsettled hok i other hlt hother
        · cases himage.symm.trans hother
          exact hguard
      · obtain ⟨hpast, hdurable⟩ := h.written i other hi hsuccess
        exact ⟨hpast.congr rfl hpast.pending hpast.writing, hdurable⟩
    · cases hstep
  · cases hstep

theorem Orderly.finished (h : Orderly s) {success : Bool} (hstep : s.finished success = some t) :
    Orderly t := by
  unfold Storage.finished at hstep
  split at hstep
  · rename_i n ok hhost
    obtain ⟨hworker, -, -⟩ := h.retrying n ok hhost
    have hpending := h.idleWorker hworker
    split at hstep
    · cases hstep
    split at hstep
    · cases hstep
      exact ⟨(fun k hk => nomatch hk), fun k hk => absurd (hk.symm.trans hworker) (by simp),
        fun hexited => absurd (hexited.symm.trans hworker) (by simp), fun hn => absurd hworker hn,
        (fun n ok hn => nomatch hn), (fun i image hi => nomatch hi)⟩
    · cases hstep
      refine ⟨h.pending, h.writing, fun hexited => absurd (hexited.symm.trans hworker) (by simp),
        fun hn => absurd hworker hn, (fun n ok hn => nomatch hn), fun i image hi hsuccess => ?_⟩
      obtain ⟨hpast, hdurable⟩ := h.written i image hi hsuccess
      exact ⟨hpast.congr rfl hpast.pending hpast.writing, hdurable⟩
  · cases hstep

theorem Orderly.take (h : Orderly s) (hstep : s.take = some t) : Orderly t := by
  unfold Storage.take at hstep
  split at hstep
  · rename_i k hworker hpending
    cases hstep
    obtain ⟨hbound, -, -⟩ := h.pending k hpending
    have hnext : ∀ j, (if k + 1 < s.images.length then some (k + 1) else none) = some j →
        j = k + 1 ∧ j < s.images.length := by
      intro j hj
      split at hj
      · rename_i hlt
        cases hj
        exact ⟨rfl, hlt⟩
      · cases hj
    refine ⟨fun j hj => ⟨(hnext j hj).2, (fun hn => nomatch hn), (fun hn => nomatch hn)⟩,
      fun j hj => ?_, (fun hn => nomatch hn), fun _ hs => ?_, fun n ok hn =>
      ?_, fun i image hi hsuccess => ?_⟩
    · cases hj
      exact ⟨hbound, fun j hj => by rw [(hnext j hj).1]; exact Nat.lt_succ_self k⟩
    · exact h.stopping (by rw [hworker]; exact fun hn => by cases hn) hs
    · exact absurd ((h.retrying n ok hn).1.symm.trans hworker) (by simp)
    · obtain ⟨hpast, hdurable⟩ := h.written i image hi hsuccess
      have hik := hpast.pending k hpending
      refine ⟨hpast.congr rfl (fun j hj => ?_) fun j hj => ?_, hdurable⟩
      · rw [(hnext j hj).1]
        omega
      · cases hj
        exact hik
  · cases hstep

theorem Orderly.exit (h : Orderly s) (hstep : s.exit = some t) : Orderly t := by
  unfold Storage.exit at hstep
  split at hstep
  · rename_i hguard
    cases hstep
    obtain ⟨hworker, hpending, hstopping⟩ := hguard
    have hhost := h.stopping (by rw [hworker]; exact fun hn => by cases hn) hstopping
    refine ⟨fun k hk => absurd (hk.symm.trans hpending) (by simp), (fun k hk => nomatch hk),
      fun _ => hhost, fun _ _ => hhost, fun n ok hn =>
      absurd (hn.symm.trans hhost) (by simp), fun i image hi hsuccess => ?_⟩
    obtain ⟨hpast, hdurable⟩ := h.written i image hi hsuccess
    exact ⟨hpast.congr rfl hpast.pending (fun k hk => nomatch hk), hdurable⟩
  · cases hstep

omit [DecidableEq π] in
theorem call_some {o : Option (Storage π)} (h : s.call o = some t) :
    s.host = .idle ∧ o = some t := by
  unfold Storage.call at h
  split at h
  · rename_i hhost
    exact ⟨hhost, h⟩
  · cases h

theorem readQueued_frame {found : Bool} (h : s.readQueued = some (found, t)) :
    ∃ sram, t = { s with sram := sram } := by
  unfold Storage.readQueued at h
  split at h
  · cases h
    exact ⟨_, rfl⟩
  · split at h
    · cases h
    · cases h
      exact ⟨_, rfl⟩

/-- **Each step of either thread keeps the queue orderly.** -/
theorem Orderly.next {act : Act π} (h : Orderly s) (hstep : s.next act = some t) : Orderly t := by
  cases act with
  | guest sram =>
      obtain ⟨-, heq⟩ := call_some hstep
      cases heq
      exact h.quiet rfl rfl rfl rfl rfl rfl
  | root path =>
      obtain ⟨-, heq⟩ := call_some hstep
      cases heq
      exact h.quiet rfl rfl rfl rfl rfl rfl
  | queue outcome =>
      obtain ⟨hhost, hqueue⟩ := call_some hstep
      exact h.queue hhost hqueue
  | read found =>
      obtain ⟨-, hread⟩ := call_some hstep
      obtain ⟨⟨found', u⟩, hresult, heq⟩ := Option.bind_eq_some_iff.1 hread
      obtain ⟨sram, rfl⟩ := readQueued_frame hresult
      split at heq
      · cases heq
        exact h.quiet rfl rfl rfl rfl rfl rfl
      · cases heq
  | finish =>
      obtain ⟨-, heq⟩ := call_some hstep
      cases heq
      exact h.finish
  | join => exact h.join hstep
  | pass => exact h.pass hstep
  | retry image content ok => exact h.retry hstep
  | finished ok => exact h.finished hstep
  | take => exact h.take hstep
  | write image content ok => exact h.workerWrite hstep
  | exit => exact h.exit hstep

theorem Orderly.run {steps : List (Storage π × Act π × Storage π)} (h : Orderly s)
    (hrun : Run Storage.Step s steps t) : Orderly t :=
  hrun.invariant (fun _ _ _ hstep hs => hs.next hstep) h

end Steps

end SmwRecomp.Sram
