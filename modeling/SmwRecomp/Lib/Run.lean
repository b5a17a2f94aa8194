import Mathlib.Data.List.Basic
import Mathlib.Data.List.Count

/-!
# Runs of a labelled step relation

A run records its steps as triples (state before, label, state after), so that a property can
speak about every step of it and about how often a kind of step occurs.

* `Run.invariant` — what holds at the start and is preserved by each step holds at the end.
* `Run.step_mem` — every recorded step is a step, taken from a state the invariant holds of.
* `Run.always_iff` — a property holds of every state of a run iff every step meets the condition
  under which a step keeps it.
* `Run.split` — a run cut at one of its steps.
* `Run.history` — an invariant that also speaks about the steps taken so far.
* `Run.trace`, `Run.path` — the run of a function, or of one that may refuse, over a list of labels.
* `foldlM_prefix` — an invariant of a loop that may stop, over the part already done.
* `Run.once` — a kind of step that sets a flag nothing clears, and needs it clear, occurs at most
  once.
-/

set_option autoImplicit false

namespace SmwRecomp

variable {σ ℓ : Type}

/-- `Run step s steps t`: the recorded steps lead from `s` to `t`. -/
inductive Run (step : σ → ℓ → σ → Prop) : σ → List (σ × ℓ × σ) → σ → Prop where
  | nil (s : σ) : Run step s [] s
  | cons {s s' t : σ} {l : ℓ} {steps : List (σ × ℓ × σ)} :
      step s l s' → Run step s' steps t → Run step s ((s, l, s') :: steps) t

/-- The steps a function takes over a list of labels. -/
def traceOf (f : σ → ℓ → σ) : σ → List ℓ → List (σ × ℓ × σ)
  | _, [] => []
  | s, l :: labels => (s, l, f s l) :: traceOf f (f s l) labels

/-- The steps a function that may refuse takes over a list of labels, and where they end. -/
def pathOf (f : σ → ℓ → Option σ) : σ → List ℓ → Option (List (σ × ℓ × σ) × σ)
  | s, [] => some ([], s)
  | s, l :: labels => do
    let t ← f s l
    let (steps, u) ← pathOf f t labels
    some ((s, l, t) :: steps, u)

theorem traceOf_append (f : σ → ℓ → σ) (labels labels' : List ℓ) : ∀ s,
    traceOf f s (labels ++ labels') = traceOf f s labels ++ traceOf f
      (labels.foldl f s) labels' := by
  induction labels with
  | nil => exact fun _ => rfl
  | cons l labels ih => exact fun s => congrArg _ (ih (f s l))

theorem traceOf_length (f : σ → ℓ → σ) (labels : List ℓ) :
    ∀ s, (traceOf f s labels).length = labels.length := by
  induction labels with
  | nil => exact fun _ => rfl
  | cons l labels ih => exact fun s => congrArg (· + 1) (ih (f s l))

/-- The last step leads to where the labels lead. -/
theorem traceOf_last (f : σ → ℓ → σ) (labels : List ℓ) :
    ∀ s, ((traceOf f s labels).getLast?.map fun x => x.2.2).getD s = labels.foldl f s := by
  induction labels with
  | nil => exact fun _ => rfl
  | cons l labels ih =>
      intro s
      rw [List.foldl_cons, ← ih (f s l)]
      change ((((s, l, f s l) :: traceOf f (f s l) labels).getLast?).map _).getD s = _
      cases hrest : traceOf f (f s l) labels with
      | nil => rfl
      | cons x rest =>
          rw [List.getLast?_cons_cons, List.getLast?_eq_some_getLast (List.cons_ne_nil x rest)]
          rfl

namespace Run

variable {step : σ → ℓ → σ → Prop} {s t : σ} {steps : List (σ × ℓ × σ)}

theorem invariant {I : σ → Prop} (hstep : ∀ a l b, step a l b → I a → I b)
    (h : Run step s steps t) (hs : I s) : I t := by
  induction h with
  | nil => exact hs
  | cons hst _ ih => exact ih (hstep _ _ _ hst hs)

theorem step_mem {I : σ → Prop} (hstep : ∀ a l b, step a l b → I a → I b)
    (h : Run step s steps t) (hs : I s) :
    ∀ a l b, (a, l, b) ∈ steps → step a l b ∧ I a := by
  induction h with
  | nil => intro a l b hm; cases hm
  | cons hst _ ih =>
      intro a l b hm
      rcases List.mem_cons.1 hm with heq | hm
      · cases heq; exact ⟨hst, hs⟩
      · exact ih (hstep _ _ _ hst hs) a l b hm

theorem always_iff {I : σ → Prop} {C : σ → ℓ → Prop}
    (hstep : ∀ a l b, step a l b → I a → (I b ↔ C a l)) (h : Run step s steps t) (hs : I s) :
    (∀ x ∈ steps, I x.2.2) ↔ ∀ x ∈ steps, C x.1 x.2.1 := by
  induction h with
  | nil => exact ⟨(fun _ _ h => nomatch h), (fun _ _ h => nomatch h)⟩
  | cons hst _ ih =>
      have hiff := hstep _ _ _ hst hs
      rw [List.forall_mem_cons, List.forall_mem_cons]
      constructor
      · rintro ⟨hb, hrest⟩
        exact ⟨hiff.1 hb, (ih hb).1 hrest⟩
      · rintro ⟨hc, hrest⟩
        exact ⟨hiff.2 hc, (ih (hiff.2 hc)).2 hrest⟩

/-- What holds of every visited state holds at the end. -/
theorem last {I : σ → Prop} (h : Run step s steps t) (hs : I s)
    (hall : ∀ x ∈ steps, I x.2.2) : I t := by
  induction h with
  | nil => exact hs
  | cons _ _ ih =>
      rw [List.forall_mem_cons] at hall
      exact ih hall.1 hall.2

theorem append {u : σ} {steps' : List (σ × ℓ × σ)} (h : Run step s steps t)
    (h' : Run step t steps' u) : Run step s (steps ++ steps') u := by
  induction h with
  | nil => exact h'
  | cons hst _ ih => exact .cons hst (ih h')

/-- A run up to one of its steps, the step, and the run from there. -/
theorem split {a b : List (σ × ℓ × σ)} {u v : σ} {l : ℓ} :
    ∀ {s : σ}, Run step s (a ++ (u, l, v) :: b) t →
    Run step s a u ∧ step u l v ∧ Run step v b t := by
  induction a with
  | nil =>
      intro s h
      cases h with
      | cons hst hrest => exact ⟨.nil _, hst, hrest⟩
  | cons x a ih =>
      intro s h
      cases h with
      | cons hst hrest =>
          obtain ⟨hbefore, hstep, hafter⟩ := ih hrest
          exact ⟨.cons hst hbefore, hstep, hafter⟩

/-- What holds of no steps, and with each step of the steps behind it, holds of the whole run. -/
theorem history {P : List (σ × ℓ × σ) → σ → Prop} (h : Run step s steps t) (hs : P [] s)
    (hstep : ∀ before u l v, P before u → step u l v → P (before ++ [(u, l, v)]) v) :
    P steps t := by
  have hrest : ∀ {u v : σ} {rest : List (σ × ℓ × σ)}, Run step u rest v → ∀ before, P before u →
      P (before ++ rest) v := by
    intro u v rest hrun
    induction hrun with
    | nil =>
        intro before hu
        rwa [List.append_nil]
    | cons hst _ ih =>
        intro before hu
        have := ih (before ++ [_]) (hstep _ _ _ _ hu hst)
        rwa [List.append_assoc] at this
  exact hrest h [] hs

theorem trace {f : σ → ℓ → σ} (hf : ∀ a l, step a l (f a l)) (labels : List ℓ) :
    ∀ s, Run step s (traceOf f s labels) (labels.foldl f s) := by
  induction labels with
  | nil => intro s; exact .nil s
  | cons l labels ih => intro s; exact .cons (hf s l) (ih (f s l))

theorem path {f : σ → ℓ → Option σ} : ∀ {labels : List ℓ} {s t : σ} {steps : List (σ × ℓ × σ)},
    pathOf f s labels = some (steps, t) → Run (fun a l b => f a l = some b) s steps t
  | [], s, t, steps, h => by
    cases h
    exact .nil s
  | l :: labels, s, t, steps, h => by
    obtain ⟨s', hstep, h⟩ := Option.bind_eq_some_iff.1 h
    obtain ⟨⟨steps', t'⟩, hrest, h⟩ := Option.bind_eq_some_iff.1 h
    cases h
    exact .cons hstep (path hrest)

/-- A step of kind `K` needs `D` clear and sets it; nothing clears `D`: it occurs at most once. -/
theorem once {I D : σ → Prop} {K : σ × ℓ × σ → Bool}
    (hI : ∀ a l b, step a l b → I a → I b)
    (hD : ∀ a l b, step a l b → I a → D a → D b)
    (hK : ∀ a l b, step a l b → I a → K (a, l, b) = true → ¬ D a ∧ D b)
    (h : Run step s steps t) (hs : I s) : steps.countP K ≤ 1 ∧ (D s → steps.countP K = 0) := by
  induction h with
  | nil => simp
  | @cons s s' t l steps hst _ ih =>
      obtain ⟨hle, hzero⟩ := ih (hI _ _ _ hst hs)
      by_cases hk : K (s, l, s') = true
      · obtain ⟨hnd, hd⟩ := hK _ _ _ hst hs hk
        rw [List.countP_cons_of_pos hk, hzero hd]
        exact ⟨Nat.le_refl 1, fun h => absurd h hnd⟩
      · rw [List.countP_cons_of_neg hk]
        exact ⟨hle, fun hd => hzero (hD _ _ _ hst hs hd)⟩

end Run

/-- `P` holds of what is done and the state after it, and each turn that goes on keeps it. -/
theorem foldlM_prefix {α β : Type} {step : β → α → Option β} {P : List α → β → Prop}
    (hstep : ∀ done b a b', P done b → step b a = some b' → P (done ++ [a]) b') :
    ∀ {xs done : List α} {b b' : β}, P done b → xs.foldlM step b = some b' → P (done ++ xs) b'
  | [], done, b, b', h, hrun => by
    cases hrun
    rwa [List.append_nil]
  | x :: xs, done, b, b', h, hrun => by
    obtain ⟨c, hc, hrun⟩ := Option.bind_eq_some_iff.1 hrun
    have hrest := foldlM_prefix hstep (hstep done b x c h hc) hrun
    rwa [List.append_assoc] at hrest

end SmwRecomp
