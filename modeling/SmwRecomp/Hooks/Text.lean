import SmwRecomp.Lib.Scan

/-!
# Texts and lines

What the three installers use of Python's strings, over lists of characters.

* `isLineBreak`, `splitlines`, `nlLines` — `str.splitlines(keepends=True)`, and the lines a
  multi-line pattern sees.
* `Proper` — a line both agree on; `splitlines_flatten`, `nlLines_flatten` — a text of such lines
  comes apart again.
* `Tail`, `infix_pieces` — injections behind a line's text; `Bears` — their markers; `traceCall`,
  `traceCall_tail` — the calls the tools look for.
* `hex6` — `f'{pc:06X}'`, with `ofHex_hex6` and `hex6_length`; `cut` — the first occurrence of a
  string; `linePass` — a loop over the lines of a text.
-/

set_option autoImplicit false

namespace SmwRecomp.Hooks

abbrev Str := List Char

/-- Decided along the list, not over all characters. -/
instance decidableEach {P : Char → Prop} [DecidablePred P] (l : Str) : Decidable (∀ c ∈ l, P c) :=
  List.decidableBAll P l

/-! ## Characters -/

/-- Where `str.splitlines` ends a line. -/
def isLineBreak (c : Char) : Bool :=
  [0x0a, 0x0b, 0x0c, 0x0d, 0x1c, 0x1d, 0x1e, 0x85, 0x2028, 0x2029].contains c.toNat

theorem isLineBreak_printable {c : Char} (h : 32 ≤ c.toNat ∧ c.toNat < 127) :
    isLineBreak c = false := by
  have hne : ∀ n ∈ [0x0a, 0x0b, 0x0c, 0x0d, 0x1c, 0x1d, 0x1e, 0x85, 0x2028, 0x2029], n < 32 ∨
    127 ≤ n := by decide
  by_contra hbreak
  rw [Bool.not_eq_false] at hbreak
  have hn := hne c.toNat (List.contains_iff_mem.1 hbreak)
  omega

/-- `\s`. -/
def isSpace (c : Char) : Bool :=
  [0x09, 0x0a, 0x0b, 0x0c, 0x0d, 0x1c, 0x1d, 0x1e, 0x1f, 0x20, 0x85, 0xa0, 0x1680, 0x2028, 0x2029,
    0x202f, 0x205f, 0x3000].contains c.toNat || decide (0x2000 ≤ c.toNat ∧ c.toNat ≤ 0x200a)

/-- `[A-Za-z0-9_]`. -/
def isIdent (c : Char) : Bool := c.isAlphanum || c == '_'

/-- `\w`, where `alnum` is `str.isalnum` beyond ASCII. -/
def isWord (alnum : Char → Bool) (c : Char) : Bool := if c.toNat < 128 then isIdent c else alnum c

def isUpperHex (c : Char) : Bool := c.isDigit || decide ('A' ≤ c ∧ c ≤ 'F')

def isHex (c : Char) : Bool := isUpperHex c || decide ('a' ≤ c ∧ c ≤ 'f')

def hexValue (c : Char) : Nat :=
  if c.isDigit then c.toNat - 48 else if 'a' ≤ c then c.toNat - 87 else c.toNat - 55

/-- `int(digits, 16)`. -/
def ofHex (digits : Str) : Nat := digits.foldl (fun n c => 16 * n + hexValue c) 0

def hexDigit (n : Nat) : Char := if n < 10 then Char.ofNat (48 + n) else Char.ofNat (55 + n)

/-- The digits of `n` before `acc`; the fuel is enough when it exceeds `n`. -/
def hexDigits : Nat → Nat → Str → Str
  | 0, _, acc => acc
  | fuel + 1, n, acc => if n < 16 then hexDigit n :: acc
      else hexDigits fuel (n / 16) (hexDigit (n % 16) :: acc)

/-- `f'{n:06X}'`. -/
def hex6 (n : Nat) : Str := (hexDigits (n + 1) n []).leftpad 6 '0'

/-! ## Lines -/

def splitlines : Str → List Str
  | [] => []
  | '\r' :: '\n' :: cs => ['\r', '\n'] :: splitlines cs
  | c :: cs =>
    if isLineBreak c then [c] :: splitlines cs
    else match splitlines cs with
      | [] => [[c]]
      | l :: ls => (c :: l) :: ls

def nlLines : Str → List Str
  | [] => []
  | c :: cs =>
    if c = '\n' then ['\n'] :: nlLines cs
    else match nlLines cs with
      | [] => [[c]]
      | l :: ls => (c :: l) :: ls

/-- `line.rstrip(chars)`. -/
def rstrip (chars line : Str) : Str := (line.reverse.dropWhile chars.contains).reverse

/-- The first occurrence of `p`: what is before it, and what is behind. -/
def cut (p : Str) : Str → Option (Str × Str)
  | [] => if p = [] then some ([], []) else none
  | c :: cs => if p <+: c :: cs then some ([], (c :: cs).drop p.length) else (cut p cs).map fun r =>
      (c :: r.1, r.2)

/-- A loop over lines that keeps a state and puts lines out. -/
def linePass {σ : Type} (next : σ → Str → σ) (out : σ → Str → List Str) : σ → List Str → List Str
  | _, [] => []
  | s, l :: ls => out (next s l) l ++ linePass next out (next s l) ls

/-! ## Digits -/

theorem hexDigit_mem {n : Nat} (h : n < 16) : hexDigit n ∈ "0123456789ABCDEF".toList := by
  revert n
  decide

theorem hexDigits_mem : ∀ (fuel n : Nat) {acc : Str}, (∀ c ∈ acc, c ∈ "0123456789ABCDEF".toList) →
    ∀ c ∈ hexDigits fuel n acc, c ∈ "0123456789ABCDEF".toList
  | 0, _, _, hacc => hacc
  | fuel + 1, n, acc, hacc => by
    rw [hexDigits]
    split
    · rename_i h
      rw [List.forall_mem_cons]
      exact ⟨hexDigit_mem h, hacc⟩
    · apply hexDigits_mem fuel (n / 16)
      rw [List.forall_mem_cons]
      exact ⟨hexDigit_mem (by omega), hacc⟩

theorem hexPad_mem (width n : Nat) : ∀ c ∈ (hexDigits (n + 1) n []).leftpad width '0',
    c ∈ "0123456789ABCDEF".toList := by
  have hdigits : ∀ c ∈ hexDigits (n + 1) n [], c ∈ "0123456789ABCDEF".toList :=
    hexDigits_mem _ _ (by simp)
  intro c hc
  unfold List.leftpad at hc
  rcases List.mem_append.1 hc with hpad | hc
  · rw [(List.mem_replicate.1 hpad).2]
    decide
  · exact hdigits c hc

theorem hex6_mem (n : Nat) : ∀ c ∈ hex6 n, c ∈ "0123456789ABCDEF".toList := hexPad_mem 6 n

theorem hexDigits_foldl : ∀ (fuel n : Nat) (acc : Str), n < fuel →
    (hexDigits fuel n acc).foldl (fun n c => 16 * n + hexValue c) 0 =
      acc.foldl (fun n c => 16 * n + hexValue c) n
  | fuel + 1, n, acc, h => by
    have hvalue : ∀ d < 16, hexValue (hexDigit d) = d := by decide
    rw [hexDigits]
    split
    · rename_i hn
      rw [List.foldl_cons, hvalue n hn, Nat.mul_zero, Nat.zero_add]
    · rw [hexDigits_foldl fuel (n / 16) _ (by omega), List.foldl_cons,
        hvalue _ (Nat.mod_lt _ (by decide)), Nat.div_add_mod]

theorem hexDigits_length (k : Nat) : ∀ (fuel n : Nat) (acc : Str), n < 16 ^ (k + 1) →
    (hexDigits fuel n acc).length ≤ k + 1 + acc.length := by
  induction k with
  | zero =>
      intro fuel n acc h
      cases fuel with
      | zero => exact Nat.le_add_left _ _
      | succ fuel =>
          rw [hexDigits, if_pos (by simpa using h), List.length_cons]
          omega
  | succ k ih =>
      intro fuel n acc h
      cases fuel with
      | zero => exact Nat.le_add_left _ _
      | succ fuel =>
          rw [hexDigits]
          split
          · rw [List.length_cons]
            omega
          · have hdiv : n / 16 < 16 ^ (k + 1) := Nat.div_lt_of_lt_mul (by rwa [← Nat.pow_succ'])
            have hrest := ih fuel (n / 16) (hexDigit (n % 16) :: acc) hdiv
            rw [List.length_cons] at hrest
            omega

theorem ofHex_hex6 (n : Nat) : ofHex (hex6 n) = n := by
  have hzeros : ∀ k : Nat, (List.replicate k '0').foldl (fun n c => 16 * n + hexValue c) 0 = 0 := by
    intro k
    induction k with
    | zero => rfl
    | succ k ih => exact ih
  unfold ofHex hex6 List.leftpad
  rw [List.foldl_append, hzeros]
  exact hexDigits_foldl (n + 1) n [] (Nat.lt_succ_self n)

theorem hex6_length {n : Nat} (h : n < 2 ^ 24) : (hex6 n).length = 6 := by
  have hdigits := hexDigits_length 5 (n + 1) n [] h
  unfold hex6
  rw [List.length_leftpad]
  exact max_eq_left hdigits

/-! ## Proper lines -/

/-- A line without a line break but the newline at its end. -/
def Proper (l : Str) : Prop := ∃ u, l = u ++ ['\n'] ∧ ∀ c ∈ u, isLineBreak c = false

theorem proper_iff {l : Str} : Proper l ↔ l = l.dropLast ++ ['\n'] ∧ ∀ c ∈ l.dropLast,
    isLineBreak c = false := by
  constructor
  · rintro ⟨u, rfl, hu⟩
    rw [List.dropLast_concat]
    exact ⟨rfl, hu⟩
  · rintro ⟨hl, hu⟩
    exact ⟨l.dropLast, hl, hu⟩

instance (l : Str) : Decidable (Proper l) := decidable_of_iff _ proper_iff.symm

theorem splitlines_line : ∀ {u : Str} (t : Str), (∀ c ∈ u, isLineBreak c = false) →
    splitlines (u ++ '\n' :: t) = (u ++ ['\n']) :: splitlines t
  | [], t, _ => by
    rw [List.nil_append, splitlines, if_pos (by decide)]
    · rfl
    · intro t hr
      cases hr
  | c :: u, t, h => by
    rw [List.forall_mem_cons] at h
    have hne : c ≠ '\r' := by
      rintro rfl
      exact absurd h.1 (by decide)
    rw [List.cons_append, splitlines, if_neg (by rw [h.1]; exact Bool.false_ne_true),
      splitlines_line t h.2]
    · rfl
    · intro t hr
      exact absurd hr hne

theorem nlLines_line : ∀ {u : Str} (t : Str), (∀ c ∈ u, isLineBreak c = false) →
    nlLines (u ++ '\n' :: t) = (u ++ ['\n']) :: nlLines t
  | [], t, _ => by
    rw [List.nil_append, nlLines, if_pos rfl]
    rfl
  | c :: u, t, h => by
    rw [List.forall_mem_cons] at h
    have hne : c ≠ '\n' := by
      rintro rfl
      exact absurd h.1 (by decide)
    rw [List.cons_append, nlLines, if_neg hne, nlLines_line t h.2]
    rfl

theorem splitlines_flatten : ∀ {ls : List Str}, (∀ l ∈ ls, Proper l) → splitlines ls.flatten = ls
  | [], _ => rfl
  | l :: ls, h => by
    rw [List.forall_mem_cons] at h
    obtain ⟨⟨u, rfl, hu⟩, hrest⟩ := h
    rw [List.flatten_cons, List.append_assoc, List.singleton_append, splitlines_line _ hu,
      splitlines_flatten hrest]

theorem nlLines_flatten : ∀ {ls : List Str}, (∀ l ∈ ls, Proper l) → nlLines ls.flatten = ls
  | [], _ => rfl
  | l :: ls, h => by
    rw [List.forall_mem_cons] at h
    obtain ⟨⟨u, rfl, hu⟩, hrest⟩ := h
    rw [List.flatten_cons, List.append_assoc, List.singleton_append, nlLines_line _ hu,
      nlLines_flatten hrest]

theorem infix_newline {p u : Str} (hp : p ≠ []) (hnl : '\n' ∉ p) :
    p <:+: u ++ ['\n'] ↔ p <:+: u := by
  constructor
  · intro h
    rcases (infix_append_apart (apart_of_not_mem hnl)).1 h with h | h
    · exact h
    · obtain ⟨c, hc⟩ := List.exists_mem_of_ne_nil p hp
      exact absurd (List.mem_singleton.1 (h.subset hc) ▸ hc) hnl
  · intro h
    exact h.trans (List.prefix_append u ['\n']).isInfix

/-- A string without a newline occurs in a text if it occurs in one of its lines. -/
theorem infix_flatten {p : Str} (hp : p ≠ []) (hnl : '\n' ∉ p) :
    ∀ {ls : List Str}, (∀ l ∈ ls, Proper l) →
    (p <:+: ls.flatten ↔ ∃ l ∈ ls, p <:+: l)
  | [], _ => by simp [hp]
  | l :: ls, h => by
    rw [List.forall_mem_cons] at h
    obtain ⟨⟨u, rfl, -⟩, hrest⟩ := h
    have hcross : ∀ t : Str, p <:+: u ++ '\n' :: t ↔ p <:+: u ∨ p <:+: t := by
      intro t
      rw [infix_append_apart (apart_of_not_mem hnl), List.infix_cons_iff]
      constructor
      · rintro (hu | hstart | ht)
        · exact .inl hu
        · cases p with
          | nil => exact absurd rfl hp
          | cons c p =>
              have hc : c = '\n' := (List.cons_prefix_cons.1 hstart).1
              exact absurd (hc ▸ List.mem_cons_self) hnl
        · exact .inr ht
      · rintro (hu | ht)
        · exact .inl hu
        · exact .inr (.inr ht)
    rw [List.flatten_cons, List.append_assoc, List.singleton_append, hcross,
      infix_flatten hp hnl hrest]
    constructor
    · rintro (hu | ⟨l, hl, hpl⟩)
      · exact ⟨_, List.mem_cons_self, hu.trans (List.prefix_append _ _).isInfix⟩
      · exact ⟨l, List.mem_cons_of_mem _ hl, hpl⟩
    · rintro ⟨l, hl, hpl⟩
      rcases List.mem_cons.1 hl with rfl | hl
      · exact .inl ((infix_newline hp hnl).1 hpl)
      · exact .inr ⟨l, hl, hpl⟩

theorem rstrip_line {chars v : Str} (hnl : '\n' ∈ chars)
    (hchars : ∀ c ∈ chars, isLineBreak c = true)
    (hv : ∀ c ∈ v, isLineBreak c = false) : rstrip chars (v ++ ['\n']) = v := by
  have hstop : v.reverse.dropWhile chars.contains = v.reverse := by
    cases hr : v.reverse with
    | nil => rfl
    | cons c r =>
        have hc : c ∈ v := List.mem_reverse.1 (hr ▸ List.mem_cons_self)
        apply List.dropWhile_cons_of_neg
        intro hin
        have hbreak := hchars c (List.contains_iff_mem.1 hin)
        rw [hv c hc] at hbreak
        cases hbreak
  unfold rstrip
  rw [List.reverse_append, List.reverse_singleton, List.singleton_append,
    List.dropWhile_cons_of_pos (List.contains_iff_mem.2 hnl), hstop, List.reverse_reverse]

/-! ## First occurrences -/

theorem cut_none {p : Str} : ∀ {t : Str}, ¬ p <:+: t → cut p t = none
  | [], h => by
    rw [cut, if_neg]
    rintro rfl
    exact h List.nil_infix
  | c :: t, h => by
    rw [List.infix_cons_iff, not_or] at h
    rw [cut, if_neg h.1, cut_none h.2]
    rfl

/-- The first occurrence of a string of which no proper ending is a beginning. -/
theorem cut_append {p r : Str} (hp : p ≠ []) (hborder : ∀ v ∈ p.tails, v ≠ [] → v ≠ p → ¬ v <+: p) :
    ∀ {t : Str}, ¬ p <:+: t → cut p (t ++ (p ++ r)) = some (t, r)
  | [], _ => by
    obtain ⟨c, p, rfl⟩ := List.exists_cons_of_ne_nil hp
    rw [List.nil_append, List.cons_append, cut, ← List.cons_append, if_pos (List.prefix_append _ _),
      List.drop_left]
  | c :: t, h => by
    have hstart : ¬ p <+: c :: t ++ (p ++ r) := by
      intro hpre
      rcases List.prefix_or_prefix_of_prefix hpre (List.prefix_append (c :: t) (p ++ r)) with ht
        | ht
      · exact h ht.isInfix
      · obtain ⟨v, hv⟩ := ht
        have hvp : v <+: p ++ r := by
          have hpre : c :: t ++ v <+: c :: t ++ (p ++ r) := hv ▸ hpre
          exact (List.prefix_append_right_inj (c :: t)).1 hpre
        have hsuffix : v <:+ p := ⟨c :: t, hv⟩
        have hne : v ≠ p := by
          rintro rfl
          have hlength := congrArg List.length hv
          rw [List.length_append, List.length_cons] at hlength
          omega
        by_cases hnil : v = []
        · rw [hnil, List.append_nil] at hv
          exact h (hv ▸ List.infix_rfl)
        · refine hborder v ((List.mem_tails _ _).2 hsuffix) hnil hne ?_
          exact List.prefix_of_prefix_length_le hvp (List.prefix_append p r) hsuffix.length_le
    rw [List.infix_cons_iff, not_or] at h
    rw [List.cons_append, cut, ← List.cons_append, if_neg hstart, cut_append hp hborder h.2]
    rfl

/-! ## Tails of lines -/

/-- What stands behind a stock line's text: its newline, or an injection. -/
def Tail (x : Str) : Prop := x = ['\n'] ∨ ∃ r, x = ' ' :: '/' :: r

/-- A string that does not reach from a line's text into a tail. -/
def Clear (p : Str) : Prop := '\n' ∉ p ∧ (' ' ∉ p ∨ '/' ∉ p ∧ p.getLast? ≠ some ' ')

instance (p : Str) : Decidable (Clear p) := inferInstanceAs (Decidable (_ ∧ _))

theorem Clear.apart {p x : Str} (hp : Clear p) (hx : Tail x) : Apart p x := by
  obtain ⟨hnl, hsep⟩ := hp
  rcases hx with rfl | ⟨r, rfl⟩
  · exact apart_of_not_mem hnl
  · rcases hsep with hspace | ⟨hslash, hlast⟩
    · exact apart_of_not_mem hspace
    · exact apart_of_pair hslash hlast

theorem tail_flatten {pieces : List Str} (h : ∀ x ∈ pieces, ∃ r, x = ' ' :: '/' :: r) :
    Tail (pieces.flatten ++ ['\n']) := by
  cases pieces with
  | nil => exact .inl rfl
  | cons x pieces =>
      obtain ⟨r, rfl⟩ := h _ List.mem_cons_self
      exact .inr ⟨_, rfl⟩

/-- What a line with injections behind its text has, the text or an injection has. -/
theorem infix_pieces {p u : Str} (hp : Clear p) (hne : p ≠ []) : ∀ {pieces : List Str},
    (∀ x ∈ pieces, ∃ r, x = ' ' :: '/' :: r) →
    (p <:+: u ++ (pieces.flatten ++ ['\n']) ↔ p <:+: u ∨ ∃ x ∈ pieces, p <:+: x) := by
  have hnone : ¬ p <:+: ['\n'] := by
    intro h
    obtain ⟨c, hc⟩ := List.exists_mem_of_ne_nil p hne
    exact hp.1 (List.mem_singleton.1 (h.subset hc) ▸ hc)
  intro pieces
  induction pieces generalizing u with
  | nil =>
      intro h
      rw [infix_append_apart (hp.apart (tail_flatten h))]
      simp [hnone]
  | cons x pieces ih =>
      intro h
      have hrest := (List.forall_mem_cons.1 h).2
      rw [infix_append_apart (hp.apart (tail_flatten h)), List.flatten_cons,
        List.append_assoc, ih hrest]
      simp

/-- An injection with its marker: spaces, the marker, a space, and no `-` from there on. -/
def Bears (marker x : Str) : Prop :=
  marker ++ [' '] <+: x.dropWhile (· == ' ') ∧ '-' ∉ (x.dropWhile (· == ' ')).drop marker.length

instance (marker x : Str) : Decidable (Bears marker x) := inferInstanceAs (Decidable (_ ∧ _))

/-- A marker that occurs in an injection occurs in the injection's own. -/
theorem Bears.in_marker {marker x p : Str} (h : Bears marker x) (hspace : ' ' ∉ p) (hdash : '-' ∈ p)
    (hp : p <:+: x) :
    p <:+: marker := by
  have hinner : ∀ y : Str, p <:+: y → p <:+: y.dropWhile (· == ' ') := by
    intro y
    induction y with
    | nil => exact id
    | cons c y ih =>
        intro hy
        by_cases hc : c = ' '
        · subst hc
          have hskip : ¬ p <+: ' ' :: y := by
            intro hpre
            cases p with
            | nil => cases hdash
            | cons d p => exact hspace ((List.cons_prefix_cons.1 hpre).1 ▸ List.mem_cons_self)
          exact ih ((List.infix_cons_iff.1 hy).resolve_left hskip)
        · rwa [List.dropWhile_cons_of_neg (by simpa using hc)]
  obtain ⟨⟨r, hr⟩, hrest⟩ := h
  have hcut := hinner x hp
  rw [← hr, List.append_assoc, List.drop_left] at hrest
  rw [← hr, List.append_assoc, List.singleton_append, infix_append_apart (apart_of_not_mem hspace)]
    at hcut
  exact hcut.resolve_right fun hin => hrest (hin.subset hdash)

/-! ## Trace calls -/

/-- `cpu_trace_block\(cpu, 0x([…]+)…`, for a class of digits and what ends the call. -/
def traceCall (digit : Char → Bool) (close : Str) : Scan Char Str := do
  lit "cpu_trace_block(cpu, 0x".toList
  let digits ← run digit
  ensure (digits ≠ [])
  lit close
  return digits

theorem traceCall_none {digit : Char → Bool} {close l : Str}
    (h : ¬ "cpu_trace_block(cpu, 0x".toList <:+: l) :
    search (traceCall digit close) l = none :=
  search_lit_none (by decide) h

theorem traceCall_tail {digit : Char → Bool} {close u x : Str} (hspace : digit ' ' = false)
    (hnl : digit '\n' = false)
    (hclose : Clear close) (hx : Tail x) (hnone : ¬ "cpu_trace_block(cpu, 0x".toList <:+: x) :
    search (traceCall digit close) (u ++ x) = search (traceCall digit close) u := by
  have hrun : Blind x (run digit) := by
    rcases hx with rfl | ⟨r, rfl⟩
    · exact blind_run hnl
    · exact blind_run hspace
  have hopen : Clear "cpu_trace_block(cpu, 0x".toList := by decide
  have hblind : Blind x (traceCall digit close) := by
    refine (blind_lit (hopen.apart hx)).bind fun _ => hrun.bind fun digits => ?_
    exact blind_ensure.bind fun _ => (blind_lit (hclose.apart hx)).bind fun _ => blind_pure digits
  rw [search_append hblind, traceCall_none hnone]
  cases search (traceCall digit close) u <;> rfl

/-! ## Line passes -/

section LinePass

variable {σ : Type} {next : σ → Str → σ} {out : σ → Str → List Str}

theorem linePass_append {a b : List Str} : ∀ {s : σ},
    linePass next out s (a ++ b) = linePass next out s a ++ linePass next out
      (a.foldl next s) b := by
  induction a with
  | nil => intro s; rfl
  | cons l a ih =>
      intro s
      rw [List.cons_append, linePass, linePass, ih, List.append_assoc]
      rfl

theorem linePass_same {a : List Str} (hout : ∀ l ∈ a, ∀ s, out s l = [l]) :
    ∀ {s : σ}, linePass next out s a = a := by
  induction a with
  | nil => intro s; rfl
  | cons l a ih =>
      intro s
      rw [List.forall_mem_cons] at hout
      rw [linePass, hout.1, ih hout.2]
      rfl

theorem foldl_same {a : List Str} (hnext : ∀ l ∈ a, ∀ s, next s l = s) :
    ∀ {s : σ}, a.foldl next s = s := by
  induction a with
  | nil => intro s; rfl
  | cons l a ih =>
      intro s
      rw [List.forall_mem_cons] at hnext
      rw [List.foldl_cons, hnext.1, ih hnext.2]

end LinePass

end SmwRecomp.Hooks
