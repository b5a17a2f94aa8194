import Mathlib.Order.MinMax
import Mathlib.Data.List.Induction

/-!
# Half-open spans, merged in one pass

Spans over a linear order, each under a key.

* `Covered` — the points of a list of spans; `Span.Before` — a gap between two of them.
* `mergeSpan` — a span taken into a list, joined to the last one where they meet.
* `mergeSpans_spec` — over spans in the order of their starts, the same points are covered, by
  spans that are apart.
-/

set_option autoImplicit false

namespace SmwRecomp

/-- The points from `start` to below `stop`, under a key. -/
structure Span (κ ι : Type) where
  key : κ
  start : ι
  stop : ι
  deriving DecidableEq

variable {κ ι : Type} [LinearOrder κ] [LinearOrder ι]

def Span.Holds (r : Span κ ι) (k : κ) (x : ι) : Prop := r.key = k ∧ r.start ≤ x ∧ x < r.stop

def Covered (rs : List (Span κ ι)) (k : κ) (x : ι) : Prop := ∃ r ∈ rs, r.Holds k x

/-- `r` is in front of `s`, and does not touch it. -/
def Span.Before (r s : Span κ ι) : Prop := r.key < s.key ∨ r.key = s.key ∧ r.stop < s.start

/-- `r` does not start behind `s`. -/
def Span.Starts (r s : Span κ ι) : Prop := r.key < s.key ∨ r.key = s.key ∧ r.start ≤ s.start

def Span.Full (r : Span κ ι) : Prop := r.start < r.stop

/-- A span behind the last one of a list, or joined to it. -/
def mergeSpan (merged : List (Span κ ι)) (r : Span κ ι) : List (Span κ ι) :=
  match merged.getLast? with
  | none => merged ++ [r]
  | some last =>
    if last.key = r.key ∧ r.start ≤ last.stop then merged.dropLast ++
      [{ last with stop := max last.stop r.stop }]
    else merged ++ [r]

omit [LinearOrder κ] in
theorem covered_append (rs ss : List (Span κ ι)) (k : κ) (x : ι) :
    Covered (rs ++ ss) k x ↔ Covered rs k x ∨ Covered ss k x := by
  unfold Covered
  simp only [List.mem_append, or_and_right, exists_or]

omit [LinearOrder κ] in
theorem covered_singleton (r : Span κ ι) (k : κ) (x : ι) : Covered [r] k x ↔ r.Holds k x := by
  unfold Covered
  simp only [List.mem_singleton, exists_eq_left]

omit [LinearOrder κ] in
/-- Two spans that meet are one. -/
theorem holds_join {last r : Span κ ι} (hkey : last.key = r.key) (hstarts : last.start ≤ r.start)
    (hmeet : r.start ≤ last.stop) (k : κ) (x : ι) :
    ({ last with stop := max last.stop r.stop } : Span κ ι).Holds k x ↔ last.Holds k x ∨
    r.Holds k x := by
  unfold Span.Holds
  dsimp only
  rw [lt_max_iff, ← hkey]
  constructor
  · rintro ⟨hk, hlow, hhigh⟩
    rcases lt_or_ge x last.stop with hinside | hbehind
    · exact Or.inl ⟨hk, hlow, hinside⟩
    · exact Or.inr ⟨hk, hmeet.trans hbehind, hhigh.resolve_left (not_lt.2 hbehind)⟩
  · rintro (⟨hk, hlow, hhigh⟩ | ⟨hk, hlow, hhigh⟩)
    · exact ⟨hk, hlow, Or.inl hhigh⟩
    · exact ⟨hk, hstarts.trans hlow, Or.inr hhigh⟩

/-- What holds of the merged list behind `done`. -/
structure Merged (done merged : List (Span κ ι)) : Prop where
  covered : ∀ k x, Covered merged k x ↔ Covered done k x
  apart : merged.Pairwise Span.Before
  full : ∀ r ∈ merged, r.Full
  starts : ∀ r ∈ merged, ∃ d ∈ done, r.key = d.key ∧ r.start = d.start

theorem Merged.push {done merged : List (Span κ ι)} {r : Span κ ι}
    (h : Merged done merged) (hr : r.Full)
    (happart : ∀ q ∈ merged, q.Before r) : Merged (done ++ [r]) (merged ++ [r]) where
  covered k x := by rw [covered_append, covered_append, h.covered]
  apart := by
    refine List.pairwise_append.2 ⟨h.apart, List.pairwise_singleton _ _, fun q hq s hs => ?_⟩
    rw [List.mem_singleton.1 hs]
    exact happart q hq
  full q hq := by
    rcases List.mem_append.1 hq with hq | hq
    · exact h.full q hq
    · rw [List.mem_singleton.1 hq]
      exact hr
  starts q hq := by
    rcases List.mem_append.1 hq with hq | hq
    · obtain ⟨d, hd, hsame⟩ := h.starts q hq
      exact ⟨d, List.mem_append_left _ hd, hsame⟩
    · rw [List.mem_singleton.1 hq]
      exact ⟨r, List.mem_append_right _ List.mem_cons_self, rfl, rfl⟩

theorem Merged.step {done merged : List (Span κ ι)} {r : Span κ ι}
    (h : Merged done merged) (hr : r.Full)
    (hstarts : ∀ d ∈ done, d.Starts r) : Merged (done ++ [r]) (mergeSpan merged r) := by
  have hbehind : ∀ q ∈ merged, q.Starts r := by
    intro q hq
    obtain ⟨d, hd, hkey, hstart⟩ := h.starts q hq
    unfold Span.Starts
    rw [hkey, hstart]
    exact hstarts d hd
  rcases List.eq_nil_or_concat merged with hnil | ⟨front, last, hlist⟩
  · subst hnil
    exact h.push hr fun q hq => nomatch hq
  · rw [List.concat_eq_append] at hlist
    subst hlist
    have hlast : last ∈ front ++ [last] := List.mem_append_right _ List.mem_cons_self
    obtain ⟨hfront, -, hbefore⟩ := List.pairwise_append.1 h.apart
    have hlastBefore : ∀ q ∈ front, q.Before last :=
      fun q hq => hbefore q hq last List.mem_cons_self
    unfold mergeSpan
    rw [List.getLast?_concat, List.dropLast_concat]
    dsimp only
    by_cases hmeet : last.key = r.key ∧ r.start ≤ last.stop
    · rw [if_pos hmeet]
      have hle : last.start ≤ r.start := by
        rcases hbehind last hlast with hlt | ⟨-, hle⟩
        · exact absurd hmeet.1 (ne_of_lt hlt)
        · exact hle
      refine ⟨fun k x => ?_, ?_, fun q hq => ?_, fun q hq => ?_⟩
      · have hcovered := h.covered k x
        rw [covered_append, covered_singleton] at hcovered
        rw [covered_append, covered_append, covered_singleton, covered_singleton,
          holds_join hmeet.1 hle hmeet.2, ← or_assoc, hcovered]
      · refine List.pairwise_append.2 ⟨hfront, List.pairwise_singleton _ _, fun q hq s hs => ?_⟩
        rw [List.mem_singleton.1 hs]
        exact hlastBefore q hq
      · rcases List.mem_append.1 hq with hq | hq
        · exact h.full q (List.mem_append_left _ hq)
        · rw [List.mem_singleton.1 hq]
          exact lt_of_lt_of_le (h.full last hlast) (le_max_left _ _)
      · rcases List.mem_append.1 hq with hq | hq
        · obtain ⟨d, hd, hsame⟩ := h.starts q (List.mem_append_left _ hq)
          exact ⟨d, List.mem_append_left _ hd, hsame⟩
        · rw [List.mem_singleton.1 hq]
          obtain ⟨d, hd, hsame⟩ := h.starts last hlast
          exact ⟨d, List.mem_append_left _ hd, hsame⟩
    · rw [if_neg hmeet]
      have hgap : last.Before r := by
        rcases hbehind last hlast with hlt | ⟨hkey, -⟩
        · exact Or.inl hlt
        · exact Or.inr ⟨hkey, lt_of_not_ge fun hle => hmeet ⟨hkey, hle⟩⟩
      refine h.push hr fun q hq => ?_
      rcases List.mem_append.1 hq with hq | hq
      · have hlt := h.full last hlast
        rcases hlastBefore q hq with hkey | ⟨hkey, hstop⟩
        · rcases hgap with hkey' | ⟨hkey', -⟩
          · exact Or.inl (hkey.trans hkey')
          · exact Or.inl (hkey' ▸ hkey)
        · rcases hgap with hkey' | ⟨hkey', hstop'⟩
          · exact Or.inl (hkey ▸ hkey')
          · exact Or.inr ⟨hkey.trans hkey', (hstop.trans hlt).trans hstop'⟩
      · rw [List.mem_singleton.1 hq]
        exact hgap

/-- One pass over spans in the order of their starts. -/
theorem mergeSpans_spec {rs : List (Span κ ι)} (hsorted : rs.Pairwise Span.Starts)
    (hfull : ∀ r ∈ rs, r.Full) :
    Merged rs (rs.foldl mergeSpan []) := by
  induction rs using List.reverseRecOn with
  | nil => exact ⟨fun _ _ => Iff.rfl, .nil, (fun _ hr => nomatch hr), (fun _ hr => nomatch hr)⟩
  | append_singleton rs r ih =>
      obtain ⟨hfront, -, hlast⟩ := List.pairwise_append.1 hsorted
      rw [List.foldl_append]
      exact (ih hfront fun q hq => hfull q (List.mem_append_left _ hq)).step
        (hfull r (List.mem_append_right _ List.mem_cons_self)) fun d hd =>
        hlast d hd r List.mem_cons_self

end SmwRecomp
