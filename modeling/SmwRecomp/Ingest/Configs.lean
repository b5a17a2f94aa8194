import SmwRecomp.Hooks.Text
import SmwRecomp.Ingest.Regions
import Mathlib.Data.List.DropRight

/-!
# Bank configurations

`src/tools/ingest_smwdisx.py`: the grammar of a bank configuration, `declared_entry_addresses`, and
where `emit_cfg` puts its block.

* `cfgBank`, `cfgFunc`, `cfgName` — the three directives the importer reads.
* `Reader` — the loop over the lines of a file: the bank, and whether the line is between the
  markers.
* `surroundings`, `splice` — what stays of a file in front of the block and behind it.
* `keptEntries` — the entries of what stays; `Adds`, `entries_splice` — the entries of the file that
  is written.
-/

set_option autoImplicit false

namespace SmwRecomp.Ingest

open Hooks

def BEGIN_MARK : Str := "# >>> BEGIN disassembly overlay (generated — do not edit)".toList

def END_MARK : Str := "# <<< END disassembly overlay".toList

/-- `raw.strip()`. -/
def strip (raw : Str) : Str := (raw.dropWhile isSpace).rdropWhile isSpace

/-! ## Directives -/

/-- A letter under `re.IGNORECASE`, which also takes the Kelvin sign for a `k`. -/
def foldCase (c : Char) : Char := if c.toNat = 0x212a then 'k' else c.toLower

def anyCase (p : Str) : Scan Char Unit := fun t =>
  if (t.take p.length).map foldCase = p then some ((), t.drop p.length) else none

/-- `\s+`. -/
def spaces : Scan Char Unit := do
  let blank ← run isSpace
  ensure (blank ≠ [])

/-- `\S+`. -/
def word : Scan Char Str := do
  let name ← run fun c => !isSpace c
  ensure (name ≠ [])
  return name

/-- `[0-9A-Fa-f]+`. -/
def hexNumber : Scan Char Nat := do
  let digits ← run isHex
  ensure (digits ≠ [])
  return ofHex digits

/-- `[0-9A-Fa-f]{1,6}`, where no digit follows. -/
def hexAddress : Scan Char Nat := do
  let digits ← run isHex
  ensure (digits ≠ [] ∧ digits.length ≤ 6)
  return ofHex digits

/-- `\b` behind a letter or a digit. -/
def wordEnd (alnum : Char → Bool) : Scan Char Unit :=
  fun t => if t.head?.any (isWord alnum) then none else some ((), t)

/-- `CFG_BANK_RE`. -/
def cfgBank : Scan Char Nat := do
  anyCase "bank".toList
  let _ ← run isSpace
  lit ['=']
  let _ ← run isSpace
  (anyCase "0x".toList >>= fun _ => hexNumber) <|> hexNumber

/-- `CFG_FUNC_RE`: the name and the address in the bank. -/
def cfgFunc (alnum : Char → Bool) : Scan Char (Str × Nat) := do
  lit "func".toList
  spaces
  let name ← word
  spaces
  let pc16 ← hexAddress
  wordEnd alnum
  return (name, pc16)

/-- `CFG_NAME_RE`. -/
def cfgName : Scan Char (Nat × Str) := do
  lit "name".toList
  spaces
  let pc24 ← hexAddress
  spaces
  let name ← word
  return (pc24, name)

/-! ## Reading a configuration -/

/-- An entry point and its name. -/
abbrev Entry := Nat × Str

structure Reader where
  bank : Nat
  inside : Bool

/-- The reader behind a line. -/
def Reader.next (r : Reader) (raw : Str) : Reader :=
  let text := strip raw
  if BEGIN_MARK.take 30 <+: text then { r with inside := true }
  else if END_MARK.take 20 <+: text then { r with inside := false }
  else if r.inside = true ∨ text = [] ∨ ['#'] <+: text then r
  else match cfgBank text with
    | some (bank, _) => { r with bank }
    | none => r

/-- The entries of a line; `within` are those of a line between the markers. -/
def Reader.entries (alnum : Char → Bool) (within : Str → List Entry) (r : Reader)
    (raw : Str) : List Entry :=
  let text := strip raw
  if BEGIN_MARK.take 30 <+: text ∨ END_MARK.take 20 <+: text then []
  else if r.inside then within text
  else if text = [] ∨ ['#'] <+: text then []
  else match cfgBank text, cfgFunc alnum text, cfgName text with
    | some _, _, _ => []
    | none, some ((name, pc16), _), _ => [(pc24Of r.bank pc16, name)]
    | none, none, some (entry, _) => [entry]
    | none, none, none => []

def entriesFrom (alnum : Char → Bool) (within : Str → List Entry) : Reader → List Str → List Entry
  | _, [] => []
  | r, l :: ls => r.entries alnum within l ++ entriesFrom alnum within (r.next l) ls

/-- `name` lines. -/
def nameEntries (text : Str) : List Entry := ((cfgName text).map Prod.fst).toList

structure ConfigFile where
  bank : Nat
  text : Str

/-- What `declared_entry_addresses` assigns: the `func` and `name` lines outside the markers. -/
def ConfigFile.declared (alnum : Char → Bool) (f : ConfigFile) : List Entry :=
  entriesFrom alnum (fun _ => []) ⟨f.bank, false⟩ (splitlines f.text)

/-- The entries of a file: `func` and `name` lines outside the markers, `name` lines between them.
-/
def ConfigFile.entries (alnum : Char → Bool) (f : ConfigFile) : List Entry :=
  entriesFrom alnum nameEntries ⟨f.bank, false⟩ (splitlines f.text)

/-! ## Where the block goes -/

/-- What stays in front of the block and behind it. -/
def surroundings (text : Str) : Str × Str :=
  match cut BEGIN_MARK text, cut END_MARK text with
  | some (head, _), some (_, tail) => (head, if ['\n'] <+: tail then tail.drop 1 else tail)
  | _, _ => (rstrip ['\n'] text ++ ['\n', '\n'], [])

def splice (generated text : Str) : Str :=
  (surroundings text).1 ++ generated ++ (surroundings text).2

/-- The line the begin marker stands on, and those in front of it. -/
def leadLines (text : Str) : List Str :=
  splitlines ((surroundings text).1 ++ (BEGIN_MARK ++ ['\n']))

/-- The entries of what stays around the block. -/
def ConfigFile.kept (alnum : Char → Bool) (f : ConfigFile) : List Entry :=
  entriesFrom alnum nameEntries ⟨f.bank, false⟩ (leadLines f.text) ++
    entriesFrom alnum nameEntries
      ⟨((leadLines f.text).foldl Reader.next ⟨f.bank, false⟩).bank, false⟩
      (splitlines (surroundings f.text).2)

/-! ## Lines -/

theorem isSpace_of_isLineBreak {c : Char} (h : isLineBreak c = true) : isSpace c = true := by
  unfold isLineBreak at h
  unfold isSpace
  rw [List.contains_iff_mem] at h
  rw [Bool.or_eq_true, List.contains_iff_mem]
  refine .inl ?_
  generalize c.toNat = n at h
  revert n
  decide

theorem splitlines_cons {c : Char} {cs : Str} (h : ¬ (c = '\r' ∧ cs.head? = some '\n')) :
    splitlines (c :: cs) =
    if isLineBreak c then [c] :: splitlines cs
    else match splitlines cs with
      | [] => [[c]]
      | l :: ls => (c :: l) :: ls := by
  refine splitlines.eq_3 c cs fun t hr hn => h ⟨hr, ?_⟩
  rw [hn, List.head?_cons]

theorem splitlines_ne_nil {t : Str} (h : t ≠ []) : splitlines t ≠ [] := by
  fun_cases splitlines t with
  | case1 => exact absurd rfl h
  | case2 | case3 | case4 | case5 => simp

/-- A newline ends a line whatever follows. -/
theorem splitlines_newline (b : Str) :
    ∀ a : Str, splitlines (a ++ '\n' :: b) = splitlines (a ++ ['\n']) ++ splitlines b
  | [] => rfl
  | c :: a => by
    by_cases hpair : c = '\r' ∧ (a ++ ['\n']).head? = some '\n'
    · obtain ⟨rfl, hhead⟩ := hpair
      cases a with
      | nil => rfl
      | cons d a =>
          obtain rfl : d = '\n' := Option.some.inj hhead
          exact congrArg (['\r', '\n'] :: ·) (splitlines_newline b a)
    · have hpair' : ¬ (c = '\r' ∧ (a ++ '\n' :: b).head? = some '\n') := by
        cases a with
        | nil => exact hpair
        | cons d a => exact hpair
      rw [List.cons_append, List.cons_append, splitlines_cons hpair, splitlines_cons hpair',
        splitlines_newline b a]
      split
      · rfl
      · cases hl : splitlines (a ++ ['\n']) with
        | nil => exact absurd hl (splitlines_ne_nil (by simp))
        | cons l ls => rfl

theorem splitlines_lines : ∀ {ls : List Str} (t : Str), (∀ l ∈ ls, Proper l) →
    splitlines (ls.flatten ++ t) = ls ++ splitlines t
  | [], _, _ => rfl
  | l :: ls, t, h => by
    rw [List.forall_mem_cons] at h
    obtain ⟨⟨u, rfl, hu⟩, hrest⟩ := h
    rw [List.flatten_cons, List.append_assoc, List.append_assoc, List.singleton_append,
      splitlines_line _ hu, splitlines_lines t hrest]
    rfl

theorem strip_cons {c : Char} (h : isSpace c = false) (u : Str) : ∃ v, strip (c :: u) = c :: v := by
  unfold strip
  rw [List.dropWhile_cons_of_neg (by rw [h]; exact Bool.false_ne_true)]
  have hne : (c :: u).rdropWhile isSpace ≠ [] := by
    intro hnil
    have hc := List.rdropWhile_eq_nil_iff.1 hnil c List.mem_cons_self
    rw [h] at hc
    cases hc
  obtain ⟨d, v, hv⟩ := List.exists_cons_of_ne_nil hne
  have hprefix : d :: v <+: c :: u := hv ▸ List.rdropWhile_prefix isSpace (c :: u)
  obtain rfl : d = c := (List.cons_prefix_cons.1 hprefix).1
  exact ⟨v, hv⟩

/-- The text of a line that begins and ends without a space. -/
theorem strip_line {u : Str} {c : Char} (hne : u ≠ []) (hhead : isSpace (u.head hne) = false)
    (hlast : isSpace c = false) :
    strip (u ++ [c] ++ ['\n']) = u ++ [c] := by
  obtain ⟨d, u, rfl⟩ := List.exists_cons_of_ne_nil hne
  unfold strip
  rw [List.cons_append, List.cons_append,
    List.dropWhile_cons_of_neg
    (by rw [show isSpace d = false from hhead]; exact Bool.false_ne_true),
    ← List.cons_append, ← List.cons_append, List.rdropWhile_concat_pos _ _ _ (by decide),
    List.rdropWhile_concat_neg _ _ _ (by rw [hlast]; exact Bool.false_ne_true)]

/-! ## Matching a line -/

theorem hexAddress_hex6 {n : Nat} (h : n < 2 ^ 24) {t : Str} (ht : ∀ c ∈ t.head?, isHex c = false) :
    hexAddress (hex6 n ++ t) = some (n, t) := by
  have hdigits : ∀ c ∈ hex6 n, isHex c = true := by
    have hall : ∀ c ∈ "0123456789ABCDEF".toList, isHex c = true := by decide
    exact fun c hc => hall c (hex6_mem n c hc)
  have hlength := hex6_length h
  have hne : hex6 n ≠ [] := List.ne_nil_of_length_pos (by omega)
  unfold hexAddress
  rw [bind_of_some (run_append hdigits ht), bind_of_some (ensure_of (by simp [hne, hlength]) t),
    ofHex_hex6]
  rfl

theorem spaces_one {t : Str} (ht : ∀ c ∈ t.head?, isSpace c = false) :
    spaces (' ' :: t) = some ((), t) := by
  have hrun : run isSpace ([' '] ++ t) = some ([' '], t) := run_append (by decide) ht
  exact (bind_of_some hrun).trans (ensure_of (by decide) t)

theorem cfgBank_none {t : Str} (h : ∀ c ∈ t.head?, foldCase c ≠ 'b') : cfgBank t = none := by
  refine bind_of_none (if_neg fun hmap => ?_)
  cases t with
  | nil => exact absurd hmap (by decide)
  | cons c t => exact h c rfl (List.cons.inj hmap).1

theorem cfgFunc_none {alnum : Char → Bool} {t : Str} (h : t.head? ≠ some 'f') :
    cfgFunc alnum t = none := by
  refine lit_bind_none fun hprefix => h ?_
  obtain ⟨r, rfl⟩ := hprefix
  rfl

theorem cfgName_none {t : Str} (h : t.head? ≠ some 'n') : cfgName t = none := by
  refine lit_bind_none fun hprefix => h ?_
  obtain ⟨r, rfl⟩ := hprefix
  rfl

/-! ## Groups of lines -/

section Groups

variable {alnum : Char → Bool}

theorem entriesFrom_append {within : Str → List Entry} (b : List Str) :
    ∀ {r : Reader} (a : List Str),
    entriesFrom alnum within r (a ++ b) = entriesFrom alnum within r a ++ entriesFrom alnum within
      (a.foldl Reader.next r) b
  | _, [] => rfl
  | r, l :: a => by
    rw [List.cons_append, entriesFrom, entriesFrom, entriesFrom_append b a, List.append_assoc]
    rfl

/-- Lines that leave the reader as it is, and declare these entries inside and outside the markers.
-/
def Adds (alnum : Char → Bool) (lines : List Str) (found : List Entry) : Prop :=
  ∀ r : Reader, entriesFrom alnum nameEntries r lines = found ∧ lines.foldl Reader.next r = r

theorem Adds.append {a b : List Str} {found more : List Entry} (ha : Adds alnum a found)
    (hb : Adds alnum b more) :
    Adds alnum (a ++ b) (found ++ more) := by
  intro r
  rw [entriesFrom_append, List.foldl_append, (ha r).2, (ha r).1, (hb r).1]
  exact ⟨rfl, (hb r).2⟩

/-- One group of lines for each record. -/
theorem Adds.flatMap {α : Type} {line : α → Str} {entry : α → List Entry} : ∀ {xs : List α},
    (∀ x ∈ xs, Adds alnum [line x] (entry x)) → Adds alnum (xs.map line) (xs.flatMap entry)
  | [], _ => fun _ => ⟨rfl, rfl⟩
  | x :: xs, h => by
    rw [List.forall_mem_cons] at h
    exact h.1.append (Adds.flatMap h.2)

theorem adds_single {l : Str} {found : List Entry} (hbegin : ¬ BEGIN_MARK.take 30 <+: strip l)
    (hend : ¬ END_MARK.take 20 <+: strip l) (hbank : cfgBank (strip l) = none)
    (hfound : ∀ r : Reader, r.entries alnum nameEntries l = found) : Adds alnum [l] found := by
  intro r
  refine ⟨(List.append_nil _).trans (hfound r), ?_⟩
  show r.next l = r
  unfold Reader.next
  simp only [if_neg hbegin, if_neg hend, hbank, ite_self]

/-- A line that is blank or a remark. -/
def Remark (l : Str) : Prop :=
  ¬ BEGIN_MARK.take 30 <+: strip l ∧ ¬ END_MARK.take 20 <+: strip l ∧
    (strip l = [] ∨ ['#'] <+: strip l)

instance (l : Str) : Decidable (Remark l) := inferInstanceAs (Decidable (_ ∧ _))

theorem Remark.adds {l : Str} (h : Remark l) : Adds alnum [l] [] := by
  obtain ⟨hbegin, hend, htext⟩ := h
  have hhead : ∀ c, (strip l).head? = some c → c = '#' := by
    intro c hc
    rcases htext with hnil | ⟨r, hr⟩
    · rw [hnil] at hc
      cases hc
    · rw [← hr] at hc
      exact (Option.some.inj hc).symm
  refine adds_single hbegin hend (cfgBank_none fun c hc => ?_) fun r => ?_
  · rw [hhead c hc]
    decide
  · have hname : nameEntries (strip l) = [] := by
      unfold nameEntries
      rw [cfgName_none fun hn => absurd (hhead 'n' hn) (by decide)]
      rfl
    unfold Reader.entries
    simp only [hname, if_pos htext, ite_self]

theorem not_mark {p text v : Str} {c : Char} (h : text = c :: v) (hmark : c ≠ '#')
    (hp : p.head? = some '#') :
    ¬ p <+: text := by
  intro hprefix
  cases p with
  | nil => cases hp
  | cons d p =>
      cases hp
      exact hmark (List.cons_prefix_cons.1 (h ▸ hprefix)).1.symm

/-- A directive the importer does not read. -/
theorem adds_other {l v : Str} {c : Char} (h : strip l = c :: v) (hmark : c ≠ '#')
    (hbank : foldCase c ≠ 'b') (hfunc : c ≠ 'f')
    (hname : c ≠ 'n') : Adds alnum [l] [] := by
  have hne := fun p => not_mark (p := p) h hmark
  have hbankNone : cfgBank (strip l) = none := by
    refine cfgBank_none fun d hd => ?_
    rw [h, List.head?_cons] at hd
    rwa [← Option.some.inj hd]
  have hfuncNone : cfgFunc alnum (strip l) = none := cfgFunc_none (by simpa [h] using hfunc)
  have hnameNone : cfgName (strip l) = none := cfgName_none (by simpa [h] using hname)
  refine adds_single (hne _ rfl) (hne _ rfl) hbankNone fun r => ?_
  unfold Reader.entries nameEntries
  simp only [hbankNone, hfuncNone, hnameNone, Option.map_none, Option.toList_none, ite_self]

/-- A name that stands for itself on a line. -/
def Word (name : Str) : Prop := name ≠ [] ∧ ∀ c ∈ name, isSpace c = false

instance (name : Str) : Decidable (Word name) := inferInstanceAs (Decidable (_ ∧ _))

def entryLine (directive : Str) (pc24 : Nat) (name : Str) : Str :=
  directive ++ (' ' :: (hex6 pc24 ++ (' ' :: name)))

theorem strip_entryLine {directive name : Str} {c : Char} {u : Str}
    (hdirective : directive = c :: u) (hc : isSpace c = false)
    (hname : Word name) (pc24 : Nat) :
    strip (entryLine directive pc24 name ++ ['\n']) = entryLine directive pc24 name := by
  obtain ⟨v, d, rfl⟩ : ∃ v d, name = v ++ [d] := ⟨_, _, (List.dropLast_concat_getLast hname.1).symm⟩
  have hsplit : entryLine directive pc24 (v ++ [d]) =
    directive ++ (' ' :: (hex6 pc24 ++ (' ' :: v))) ++ [d] := by
    simp [entryLine]
  subst hdirective
  rw [hsplit]
  exact strip_line (List.cons_ne_nil _ _) hc (hname.2 d (by simp))

theorem cfgName_entryLine {pc24 : Nat} (h : pc24 < 2 ^ 24) {name : Str} (hname : Word name) :
    cfgName (entryLine "name".toList pc24 name) = some ((pc24, name), []) := by
  have hword : word name = some (name, []) := by
    have hrun : run (fun c => !isSpace c) (name ++ []) = some (name, []) :=
      run_append (fun c hc => by rw [hname.2 c hc]; rfl) (by simp)
    rw [List.append_nil] at hrun
    exact (bind_of_some hrun).trans
      ((bind_of_some (ensure_of (by simpa using hname.1) [])).trans rfl)
  have hhead : ∀ c ∈ (hex6 pc24 ++ ' ' :: name).head?, isSpace c = false := by
    have hlength := hex6_length h
    have hall : ∀ c ∈ "0123456789ABCDEF".toList, isSpace c = false := by decide
    intro c hc
    cases hdigits : hex6 pc24 with
    | nil => simp [hdigits] at hlength
    | cons d ds =>
        rw [hdigits, List.cons_append, List.head?_cons] at hc
        obtain rfl := Option.some.inj hc
        exact hall d (hex6_mem pc24 d (hdigits ▸ List.mem_cons_self))
  have hfirst : ∀ c ∈ name.head?, isSpace c = false :=
    fun c hc => hname.2 c (List.mem_of_mem_head? hc)
  unfold cfgName entryLine
  rw [bind_of_some (lit_append _ _), bind_of_some (spaces_one hhead),
    bind_of_some (hexAddress_hex6 h (by simp; decide)),
    bind_of_some (spaces_one hfirst), bind_of_some hword]
  rfl

theorem adds_name {pc24 : Nat} (h : pc24 < 2 ^ 24) {name : Str} (hname : Word name) :
    Adds alnum [entryLine "name".toList pc24 name ++ ['\n']] [(pc24, name)] := by
  have hstrip : strip (entryLine "name".toList pc24 name ++ ['\n']) =
    entryLine "name".toList pc24 name :=
    strip_entryLine rfl (by decide) hname pc24
  have hentry := cfgName_entryLine h hname
  have hhead : entryLine "name".toList pc24 name =
    'n' :: ("ame".toList ++ (' ' :: (hex6 pc24 ++ (' ' :: name)))) := rfl
  have hbegin : ¬ BEGIN_MARK.take 30 <+: entryLine "name".toList pc24 name :=
    not_mark hhead (by decide) rfl
  have hend : ¬ END_MARK.take 20 <+: entryLine "name".toList pc24 name :=
    not_mark hhead (by decide) rfl
  have hremark : ¬ ['#'] <+: entryLine "name".toList pc24 name := not_mark hhead (by decide) rfl
  have hne : entryLine "name".toList pc24 name ≠ [] := List.cons_ne_nil _ _
  have hbank : cfgBank (entryLine "name".toList pc24 name) = none := cfgBank_none fun c hc => by
    rw [hhead, List.head?_cons] at hc
    rw [← Option.some.inj hc]
    decide
  have hfunc : cfgFunc alnum (entryLine "name".toList pc24 name) = none :=
    cfgFunc_none (by rw [hhead, List.head?_cons]; decide)
  refine adds_single (by rwa [hstrip]) (by rwa [hstrip]) (by rwa [hstrip]) fun r => ?_
  unfold Reader.entries nameEntries
  simp only [hstrip, hbegin, hend, hne, hremark, hbank, hfunc, hentry, or_self, if_false,
    Option.map_some, Option.toList_some, ite_self]

theorem begin_line_next (r : Reader) : r.next (BEGIN_MARK ++ ['\n']) = ⟨r.bank, true⟩ := by
  have hmark : BEGIN_MARK.take 30 <+: strip (BEGIN_MARK ++ ['\n']) := by decide
  unfold Reader.next
  rw [if_pos hmark]

theorem begin_line_entries (within : Str → List Entry) (r : Reader) :
    r.entries alnum within (BEGIN_MARK ++ ['\n']) = [] := by
  have hmark : BEGIN_MARK.take 30 <+: strip (BEGIN_MARK ++ ['\n']) := by decide
  unfold Reader.entries
  rw [if_pos (Or.inl hmark)]

theorem end_line_next (r : Reader) : r.next (END_MARK ++ ['\n']) = ⟨r.bank, false⟩ := by
  have hbegin : ¬ BEGIN_MARK.take 30 <+: strip (END_MARK ++ ['\n']) := by decide
  have hmark : END_MARK.take 20 <+: strip (END_MARK ++ ['\n']) := by decide
  unfold Reader.next
  rw [if_neg hbegin, if_pos hmark]

theorem end_line_entries (within : Str → List Entry) (r : Reader) :
    r.entries alnum within (END_MARK ++ ['\n']) = [] := by
  have hmark : END_MARK.take 20 <+: strip (END_MARK ++ ['\n']) := by decide
  unfold Reader.entries
  rw [if_pos (Or.inr hmark)]

/-- The entries of the file that is written: those that stay, and those of the block. -/
theorem entries_splice {f : ConfigFile} {block : List Str} {found : List Entry}
    (hproper : ∀ l ∈ block, Proper l)
    (hadds : Adds alnum block found) :
    (ConfigFile.entries alnum { f with
      text := splice (BEGIN_MARK ++ '\n' :: (block.flatten ++ (END_MARK ++ ['\n']))) f.text }).Perm
        (f.kept alnum ++ found) := by
  have hend : Proper (END_MARK ++ ['\n']) := ⟨END_MARK, rfl, by decide⟩
  have hlines : splitlines
    (splice (BEGIN_MARK ++ '\n' :: (block.flatten ++ (END_MARK ++ ['\n']))) f.text) =
      leadLines f.text ++
        (block ++ ([END_MARK ++ ['\n']] ++ splitlines (surroundings f.text).2)) := by
    have hassoc : splice (BEGIN_MARK ++ '\n' :: (block.flatten ++ (END_MARK ++ ['\n']))) f.text =
        ((surroundings f.text).1 ++ BEGIN_MARK) ++
          '\n' :: (block.flatten ++ ([END_MARK ++ ['\n']].flatten ++ (surroundings f.text).2)) := by
      simp [splice]
    rw [hassoc, splitlines_newline, splitlines_lines _ hproper,
      splitlines_lines _ (by simpa using hend), List.append_assoc]
    rfl
  unfold ConfigFile.entries ConfigFile.kept
  obtain ⟨hfound, hsame⟩ := hadds ((leadLines f.text).foldl Reader.next ⟨f.bank, false⟩)
  rw [hlines, entriesFrom_append, entriesFrom_append, hfound, hsame, List.singleton_append,
    entriesFrom, end_line_next, end_line_entries, List.nil_append, List.append_assoc]
  exact List.Perm.append_left _ List.perm_append_comm

/-! ## Files whose markers stand on lines of their own -/

/-- A line of a file that is no marker, and has none in it. -/
structure Plain (l : Str) : Prop where
  proper : Proper l
  noBegin : ¬ BEGIN_MARK.take 30 <+: strip l
  noEnd : ¬ END_MARK.take 20 <+: strip l
  apartBegin : ¬ BEGIN_MARK <:+: l
  apartEnd : ¬ END_MARK <:+: l

/-- A line inside a block: any line but an end marker. -/
structure Inner (l : Str) : Prop where
  proper : Proper l
  noEnd : ¬ END_MARK.take 20 <+: strip l
  apartEnd : ¬ END_MARK <:+: l

/-- The lines of a hand-written file, with one block in it or none. -/
inductive HandWritten : Str → Prop where
  | plain {lines : List Str} : (∀ l ∈ lines, Plain l) → HandWritten lines.flatten
  | block {front inner back : List Str} : (∀ l ∈ front, Plain l) → (∀ l ∈ inner, Inner l) →
    (∀ l ∈ back, Plain l) →
      HandWritten
        (front.flatten ++
        (BEGIN_MARK ++ '\n' :: (inner.flatten ++ (END_MARK ++ '\n' :: back.flatten))))

theorem next_plain {l : Str} (h : Plain l) {r : Reader} (hr : r.inside = false) :
    (r.next l).inside = false := by
  unfold Reader.next
  simp only [if_neg h.noBegin, if_neg h.noEnd]
  split
  · exact hr
  · split
    · exact hr
    · exact hr

variable (alnum) in
/-- Outside the markers, the lines between them do not matter. -/
theorem entriesFrom_plain (within : Str → List Entry) :
    ∀ {ls : List Str} {r : Reader}, (∀ l ∈ ls, Plain l) → r.inside = false →
    entriesFrom alnum within r ls = entriesFrom alnum nameEntries r ls ∧
    (ls.foldl Reader.next r).inside = false
  | [], _, _, hr => ⟨rfl, hr⟩
  | l :: ls, r, h, hr => by
    rw [List.forall_mem_cons] at h
    obtain ⟨hrest, hinside⟩ := entriesFrom_plain within h.2 (next_plain h.1 hr)
    have hline : r.entries alnum within l = r.entries alnum nameEntries l := by
      unfold Reader.entries
      simp only [hr, Bool.false_eq_true, if_false]
    exact ⟨by rw [entriesFrom, entriesFrom, hline, hrest], hinside⟩

variable (alnum) in
/-- Inside a block nothing is declared by hand, and the bank stays. -/
theorem entriesFrom_inner : ∀ {ls : List Str} {r : Reader}, (∀ l ∈ ls, Inner l) → r.inside = true →
    entriesFrom alnum (fun _ => []) r ls = [] ∧ ls.foldl Reader.next r = r
  | [], _, _, _ => ⟨rfl, rfl⟩
  | l :: ls, r, h, hr => by
    rw [List.forall_mem_cons] at h
    have hnext : r.next l = r := by
      unfold Reader.next
      simp only [if_neg h.1.noEnd, hr, true_or, if_true]
      split
      · rw [← hr]
      · rfl
    obtain ⟨hrest, hsame⟩ := entriesFrom_inner h.2 hr
    have hline : r.entries alnum (fun _ => []) l = [] := by
      unfold Reader.entries
      simp only [hr, if_true, ite_self]
    exact ⟨by rw [entriesFrom, hline, hnext, hrest]; rfl, by rw [List.foldl_cons, hnext, hsame]⟩

theorem blank_adds : Adds alnum [['\n']] [] := Remark.adds (by decide)

variable (alnum) in
/-- Without its last newlines, and with one of them again, a text has lines that declare the same.
-/
theorem rstrip_entries {lines : List Str} : (∀ l ∈ lines, Proper l) → ∃ ls : List Str,
    rstrip ['\n'] lines.flatten ++ ['\n'] = ls.flatten ∧ (∀ l ∈ ls, Proper l) ∧
    (∀ l ∈ ls, l ∈ lines ∨ l = ['\n']) ∧
      ∀ r, entriesFrom alnum nameEntries r ls = entriesFrom alnum nameEntries r lines := by
  induction lines using List.reverseRecOn with
  | nil =>
      intro _
      exact ⟨[['\n']], rfl, by decide, fun l hl => .inr (List.mem_singleton.1 hl),
        fun r => (blank_adds r).1⟩
  | append_singleton lines l ih =>
      intro h
      rw [List.forall_mem_append, List.forall_mem_singleton] at h
      obtain ⟨hrest, u, rfl, hu⟩ := h
      rcases List.eq_nil_or_concat' u with rfl | ⟨v, c, rfl⟩
      · obtain ⟨ls, hls, hproper, hfrom, hsame⟩ := ih hrest
        refine ⟨ls, ?_, hproper, fun l hl => (hfrom l hl).imp_left (List.mem_append_left _),
          fun r => ?_⟩
        · rw [← hls, List.flatten_append]
          exact congrArg (· ++ ['\n']) (List.rdropWhile_concat_pos _ _ _ (by decide))
        · rw [hsame, entriesFrom_append, List.nil_append, (blank_adds _).1, List.append_nil]
      · have hc : ¬ ['\n'].contains c = true := by
          intro hc
          have hbreak := hu c (by simp)
          rw [List.mem_singleton.1 (List.contains_iff_mem.1 hc)] at hbreak
          exact absurd hbreak (by decide)
        refine ⟨lines ++ [v ++ [c] ++ ['\n']], ?_, ?_, fun l hl => .inl hl, fun _ => rfl⟩
        · have hstrip : rstrip ['\n'] (lines.flatten ++ (v ++ [c]) ++ ['\n']) = lines.flatten ++
            (v ++ [c]) := by
            refine (List.rdropWhile_concat_pos _ _ _ (by decide)).trans ?_
            rw [← List.append_assoc]
            exact List.rdropWhile_concat_neg _ _ _ hc
          simpa [List.flatten_append] using congrArg (· ++ ['\n']) hstrip
        · rw [List.forall_mem_append, List.forall_mem_singleton]
          exact ⟨hrest, v ++ [c], rfl, hu⟩

theorem not_infix_flatten {p : Str} (hp : p ≠ []) (hnl : '\n' ∉ p) {ls : List Str}
    (hproper : ∀ l ∈ ls, Proper l)
    (h : ∀ l ∈ ls, ¬ p <:+: l) : ¬ p <:+: ls.flatten := by
  rw [infix_flatten hp hnl hproper]
  rintro ⟨l, hl, hin⟩
  exact h l hl hin

theorem surroundings_plain {lines : List Str} (h : ∀ l ∈ lines, Plain l) :
    surroundings lines.flatten = (rstrip ['\n'] lines.flatten ++ ['\n', '\n'], []) := by
  have hnone : cut BEGIN_MARK lines.flatten = none :=
    cut_none (not_infix_flatten (by decide) (by decide) (fun l hl => (h l hl).proper) fun l hl =>
      (h l hl).apartBegin)
  unfold surroundings
  rw [hnone]

theorem surroundings_block {front inner back : List Str} (hfront : ∀ l ∈ front, Plain l)
    (hinner : ∀ l ∈ inner, Inner l) :
    surroundings
      (front.flatten ++
      (BEGIN_MARK ++ '\n' :: (inner.flatten ++ (END_MARK ++ '\n' :: back.flatten)))) =
      (front.flatten, back.flatten) := by
  have hbegin : cut BEGIN_MARK
    (front.flatten ++
    (BEGIN_MARK ++ '\n' :: (inner.flatten ++ (END_MARK ++ '\n' :: back.flatten)))) =
      some (front.flatten, '\n' :: (inner.flatten ++ (END_MARK ++ '\n' :: back.flatten))) :=
    cut_append (by decide) (by decide)
      (not_infix_flatten (by decide) (by decide) (fun l hl => (hfront l hl).proper) fun l hl =>
        (hfront l hl).apartBegin)
  have hlead : ¬ END_MARK <:+: (front ++ ([BEGIN_MARK ++ ['\n']] ++ inner)).flatten := by
    refine not_infix_flatten (by decide) (by decide) ?_ ?_
    · rw [List.forall_mem_append, List.forall_mem_append, List.forall_mem_singleton]
      exact ⟨fun l hl => (hfront l hl).proper, by decide, fun l hl => (hinner l hl).proper⟩
    · rw [List.forall_mem_append, List.forall_mem_append, List.forall_mem_singleton]
      exact ⟨fun l hl => (hfront l hl).apartEnd, by decide, fun l hl => (hinner l hl).apartEnd⟩
  have hend : cut END_MARK
    (front.flatten ++
    (BEGIN_MARK ++ '\n' :: (inner.flatten ++ (END_MARK ++ '\n' :: back.flatten)))) =
      some ((front ++ ([BEGIN_MARK ++ ['\n']] ++ inner)).flatten, '\n' :: back.flatten) := by
    have hcut := cut_append (r := '\n' :: back.flatten) (by decide) (by decide) hlead
    simpa using hcut
  unfold surroundings
  rw [hbegin, hend]
  rfl

theorem kept_plain {lines : List Str} (h : ∀ l ∈ lines, Plain l) (bank : Nat) :
    ConfigFile.kept alnum ⟨bank, lines.flatten⟩ = ConfigFile.declared alnum
      ⟨bank, lines.flatten⟩ := by
  have hproper : ∀ l ∈ lines, Proper l := fun l hl => (h l hl).proper
  obtain ⟨ls, hls, hstays, -, hsame⟩ := rstrip_entries alnum hproper
  have hlead : leadLines lines.flatten = ls ++ ([['\n']] ++ [BEGIN_MARK ++ ['\n']]) := by
    have hassoc : rstrip ['\n'] lines.flatten ++ ['\n', '\n'] ++ (BEGIN_MARK ++ ['\n']) =
        ls.flatten ++ ('\n' :: (BEGIN_MARK ++ ['\n'])) := by
      rw [← hls]
      simp
    unfold leadLines
    rw [surroundings_plain h, hassoc, splitlines_lines _ hstays]
    rfl
  have htail : ∀ r : Reader, entriesFrom alnum nameEntries r
    (splitlines (surroundings lines.flatten).2) = [] := by
    intro r
    rw [surroundings_plain h]
    rfl
  unfold ConfigFile.kept ConfigFile.declared
  rw [htail, hlead, splitlines_flatten hproper, entriesFrom_append, entriesFrom_append, hsame,
    (blank_adds _).1, entriesFrom, begin_line_entries, entriesFrom,
    (entriesFrom_plain alnum (fun _ => []) h rfl).1]
  simp

theorem kept_block {front inner back : List Str} (hfront : ∀ l ∈ front, Plain l)
    (hinner : ∀ l ∈ inner, Inner l)
    (hback : ∀ l ∈ back, Plain l) {text : Str}
    (htext : text = front.flatten ++
      (BEGIN_MARK ++ '\n' :: (inner.flatten ++ (END_MARK ++ '\n' :: back.flatten)))) (bank : Nat) :
    ConfigFile.kept alnum ⟨bank, text⟩ = ConfigFile.declared alnum ⟨bank, text⟩ := by
  have hproper : ∀ l ∈
    front ++ ([BEGIN_MARK ++ ['\n']] ++ (inner ++ ([END_MARK ++ ['\n']] ++ back))), Proper l := by
    simp only [List.forall_mem_append, List.forall_mem_singleton]
    exact ⟨fun l hl => (hfront l hl).proper, by decide, fun l hl => (hinner l hl).proper, by decide,
      fun l hl => (hback l hl).proper⟩
  have hsurroundings : surroundings text = (front.flatten, back.flatten) :=
    htext ▸ surroundings_block hfront hinner
  have hlead : leadLines text = front ++ [BEGIN_MARK ++ ['\n']] := by
    unfold leadLines
    rw [hsurroundings, splitlines_lines _ fun l hl => (hfront l hl).proper]
    rfl
  have htail : splitlines (surroundings text).2 = back := by
    rw [hsurroundings]
    exact splitlines_flatten fun l hl => (hback l hl).proper
  have hlines : splitlines text =
    front ++ ([BEGIN_MARK ++ ['\n']] ++ (inner ++ ([END_MARK ++ ['\n']] ++ back))) := by
    rw [htext, ← splitlines_flatten hproper]
    simp
  have hfirst := entriesFrom_plain alnum (r := ⟨bank, false⟩) (fun _ => []) hfront rfl
  unfold ConfigFile.kept ConfigFile.declared
  simp only [htail, hlead, hlines]
  let r := front.foldl Reader.next ⟨bank, false⟩
  have hinside := entriesFrom_inner alnum (r := ⟨r.bank, true⟩) hinner rfl
  have hbehind := entriesFrom_plain alnum (r := ⟨r.bank, false⟩) (fun _ => []) hback rfl
  -- In front of the marker both loops agree; inside the block the hand-written reading declares
  -- nothing.
  have hblock : entriesFrom alnum (fun _ => []) r
    ([BEGIN_MARK ++ ['\n']] ++ (inner ++ ([END_MARK ++ ['\n']] ++ back))) =
      entriesFrom alnum nameEntries ⟨r.bank, false⟩ back := by
    rw [List.singleton_append, List.singleton_append, entriesFrom, begin_line_entries,
      begin_line_next, entriesFrom_append, hinside.1, hinside.2, entriesFrom, end_line_entries,
      end_line_next, hbehind.1]
    rfl
  have hmarker : entriesFrom alnum nameEntries r [BEGIN_MARK ++ ['\n']] = [] := by
    rw [entriesFrom, begin_line_entries]
    rfl
  have hstate : ((front ++ [BEGIN_MARK ++ ['\n']]).foldl Reader.next ⟨bank, false⟩).bank =
    r.bank := by
    rw [List.foldl_append, List.foldl_cons, List.foldl_nil, begin_line_next]
  rw [hstate, entriesFrom_append, entriesFrom_append, hfirst.1, hblock, hmarker, List.append_nil]

/-- In a hand-written file, what stays is what `declared_entry_addresses` has read. -/
theorem kept_eq_declared {f : ConfigFile} (h : HandWritten f.text) :
    f.kept alnum = f.declared alnum := by
  obtain ⟨bank, text⟩ := f
  cases h with
  | plain hplain => exact kept_plain hplain bank
  | block hfront hinner hback => exact kept_block hfront hinner hback rfl bank

end Groups

end SmwRecomp.Ingest
