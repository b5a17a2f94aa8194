import SmwRecomp.Hooks.Text

/-!
# The co-op installer

`tools/apply_coop_hooks.py`: a line of its own before every trace call of a required site.

* `coopStrip`, `coopLine`, `coopApply` — the lines of an earlier run out, the lines of this one in.
* `coopApply_lines` — the two on a text of proper lines; `coopHook_plain` — what a line that is put
  in does not have.
-/

set_option autoImplicit false

namespace SmwRecomp.Hooks

def coopMarker : Str := "/*SMW-NATIVE-COOP*/".toList

/-- What is put in behind the marker. -/
def coopCall (pc : Nat) : Str :=
  " \x7b extern uint32_t SmwCoop".toList ++ ("GuestHook(CpuState *, uint32_t);".toList ++
    (" uint32_t target = SmwCoop".toList ++ ("GuestHook(cpu, 0x".toList ++ (hex6 pc ++
    ("u); if (target) \x7b RecompStackPop(); ".toList ++
      ("return interp_tier_dispatch_tail".toList ++
    ("(cpu, target, 0x".toList ++ (hex6 pc ++ "u, _entry_s, _hrv); \x7d \x7d".toList))))))))

/-- The line that is put in, up to its newline. -/
def coopHook (pc : Nat) : Str := "    ".toList ++ (coopMarker ++ coopCall pc)

/-- `re.sub(r'^.*?/\*SMW-NATIVE-COOP\*/[^\n]*\n', '', text, flags=re.M)`. -/
def coopStrip (text : Str) : Str :=
  ((nlLines text).filter fun l => !(decide (coopMarker <:+: l) && l.getLast? == some '\n')).flatten

/-- The required site a line calls. -/
def coopSite (required : Nat → Bool) (line : Str) : Option Nat :=
  ((search (traceCall isHex ");".toList) line).map ofHex).filter required

def coopLine (required : Nat → Bool) (line : Str) : List Str :=
  match coopSite required line with
  | some pc => [coopHook pc ++ ['\n'], line]
  | none => [line]

/-- `apply` of the co-op installer. -/
def coopApply (required : Nat → Bool) (text : Str) : Str :=
  ((splitlines (coopStrip text)).flatMap (coopLine required)).flatten

theorem coopApply_lines {required : Nat → Bool} {ls : List Str} (hproper : ∀ l ∈ ls, Proper l) :
    coopApply required ls.flatten =
      ((ls.filter fun l => !decide (coopMarker <:+: l)).flatMap (coopLine required)).flatten := by
  have hfilter : (ls.filter fun l => !(decide (coopMarker <:+: l) && l.getLast? == some '\n')) =
      ls.filter fun l => !decide (coopMarker <:+: l) := by
    apply List.filter_congr
    intro l hl
    obtain ⟨u, rfl, -⟩ := hproper l hl
    simp
  unfold coopApply coopStrip
  rw [nlLines_flatten hproper, hfilter, splitlines_flatten]
  intro l hl
  exact hproper l (List.mem_filter.1 hl).1

/-! ## The line that is put in -/

/-- A character that the text around the digits does not have, and that is no digit. -/
theorem coopCall_lacks {c : Char} (hdigit : c ∉ "0123456789ABCDEF".toList)
    (hzero : c ∉ coopCall 0) (pc : Nat) :
    c ∉ coopCall pc := by
  have hhex : c ∉ hex6 pc := fun h => hdigit (hex6_mem pc c h)
  unfold coopCall at hzero ⊢
  simp only [List.mem_append, not_or] at hzero ⊢
  obtain ⟨h1, h2, h3, h4, -, h5, h6, h7, -, h8⟩ := hzero
  exact ⟨h1, h2, h3, h4, hhex, h5, h6, h7, hhex, h8⟩

theorem coopHook_lacks {c : Char} (hdigit : c ∉ "0123456789ABCDEF".toList)
    (hzero : c ∉ coopHook 0) (pc : Nat) :
    c ∉ coopHook pc := by
  unfold coopHook at hzero ⊢
  simp only [List.mem_append, not_or] at hzero ⊢
  exact ⟨hzero.1, hzero.2.1, coopCall_lacks hdigit hzero.2.2 pc⟩

theorem coopHook_plain (pc : Nat) : 'b' ∉ coopHook pc ∧ '>' ∉ coopHook pc := by
  have hzero : 'b' ∉ coopHook 0 ∧ '>' ∉ coopHook 0 := by decide +kernel
  exact ⟨coopHook_lacks (by decide) hzero.1 pc, coopHook_lacks (by decide) hzero.2 pc⟩

theorem coopHook_proper (pc : Nat) : Proper (coopHook pc ++ ['\n']) := by
  refine ⟨coopHook pc, rfl, ?_⟩
  intro c hc
  have hall : ∀ d ∈ "0123456789ABCDEF".toList ++ coopHook 0, 32 ≤ d.toNat ∧ d.toNat < 127 := by
    decide +kernel
  rw [List.forall_mem_append] at hall
  by_contra hbreak
  refine coopHook_lacks ?_ ?_ pc hc
  · exact fun h => hbreak (isLineBreak_printable (hall.1 c h))
  · exact fun h => hbreak (isLineBreak_printable (hall.2 c h))

theorem coopHook_bears (pc : Nat) : Bears coopMarker (coopHook pc) := by
  have hcut : (coopHook pc).dropWhile (· == ' ') = coopMarker ++ coopCall pc := rfl
  unfold Bears
  rw [hcut, List.drop_left]
  constructor
  · exact (List.prefix_append_right_inj coopMarker).2 ⟨_, rfl⟩
  · exact coopCall_lacks (by decide) (by decide +kernel) pc

end SmwRecomp.Hooks
