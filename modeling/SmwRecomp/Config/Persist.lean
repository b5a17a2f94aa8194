import Mathlib.Data.List.DropRight
import SmwRecomp.Config.Writer

/-!
# What the reader keeps of the settings written

`WriteConfigFile` puts each entry in one place; `ParseOneConfigFile` lets the last assignment of a
key win.

* `LineUtil`, `ReadsLines` — the text functions, with `NextLineStripComments` of a line, and what
  they do.
* `handed` — what the reader hands to `HandleIniConfig` of a text.
* `valuesOf`, `inForce` — the values of one key, and the last of them.
* `place` — where the writer puts an entry, and the lines that stay behind it.
* `valuesOf_writeConfigFile` — what the reader is handed of a key is the entry and the lines behind
  its place.
* `launcherSettings_persist_iff` — every setting stays in force exactly when no other value stays
  behind its place.
-/

set_option autoImplicit false

namespace SmwRecomp.Config

/-! ## The text functions -/

structure LineUtil extends Util where
  /-- `NextLineStripComments` of one line -/
  stripComments : Text → Text

/-- What comparisons without case see. -/
def fold (s : Text) : Text := s.map Char.toLower

/-- What is cut at the end of a line. -/
def isTrail (c : Char) : Bool := isBlank c || c = '\r'

/-- What the functions of `util.c` do with a line. -/
structure ReadsLines (u : LineUtil) : Prop where
  equal : ∀ s t, u.equalsNoCase s t = true ↔ fold s = fold t
  starts : ∀ s p r, u.startsWithNoCase s p = some r ↔ fold (s.take p.length) = fold p ∧
    s.drop p.length = r
  split : ∀ s, u.splitKeyValue s =
    if '=' ∈ s then
      some ((s.takeWhile (· ≠ '=')).rdropWhile isBlank,
        ((s.dropWhile (· ≠ '=')).drop 1).dropWhile isBlank)
    else none
  strip : ∀ s, u.stripComments s = ((s.takeWhile (· ≠ '#')).rdropWhile isTrail).dropWhile isBlank

theorem toLower_eq {c d : Char} (h : c.toLower = d) (hd : d.isLower = false) : c = d := by
  unfold Char.toLower at h
  split at h
  case isFalse => exact h
  case isTrue hupper =>
    exfalso
    have hval : d.val = c.val + 32 := (congrArg Char.val h).symm
    obtain ⟨hlow, hhigh⟩ := hupper
    have hlower : d.isLower = true := by
      unfold Char.isLower
      rw [Bool.and_eq_true, decide_eq_true_eq, decide_eq_true_eq, hval]
      have h1 : (65 : UInt32) ≤ c.val := hlow
      have h2 : c.val ≤ (90 : UInt32) := hhigh
      change (97 : UInt32) ≤ c.val + 32 ∧ c.val + 32 ≤ (122 : UInt32)
      rw [UInt32.le_iff_toNat_le] at h1 h2 ⊢
      rw [UInt32.le_iff_toNat_le, UInt32.toNat_add]
      have h65 : (65 : UInt32).toNat = 65 := rfl
      have h90 : (90 : UInt32).toNat = 90 := rfl
      have h97 : (97 : UInt32).toNat = 97 := rfl
      have h122 : (122 : UInt32).toNat = 122 := rfl
      have h32 : (32 : UInt32).toNat = 32 := rfl
      omega
    rw [hlower] at hd
    cases hd

theorem fold_append (s t : Text) : fold (s ++ t) = fold s ++ fold t := List.map_append

theorem fold_length (s : Text) : (fold s).length = s.length := List.length_map _

/-- A character that is no lower-case letter is its own folded form, and of no other. -/
theorem mem_fold {s : Text} {c : Char} (hlower : c.isLower = false) (hself : c.toLower = c) :
    c ∈ fold s ↔ c ∈ s := by
  unfold fold
  rw [List.mem_map]
  constructor
  · rintro ⟨d, hd, hc⟩
    rwa [← toLower_eq hc hlower]
  · exact fun hc => ⟨c, hc, hself⟩

theorem fold_concat {s t : Text} {c : Char} (hlower : c.isLower = false)
    (h : fold s = fold t ++ [c]) :
    ∃ s', s = s' ++ [c] ∧ fold s' = fold t := by
  obtain ⟨s', l, rfl, hs', hl⟩ := List.map_eq_append_iff.1 h
  obtain ⟨d, rfl, hd⟩ : ∃ d, l = [d] ∧ d.toLower = c := by
    cases l with
    | nil => cases hl
    | cons d l =>
        rw [List.map_cons] at hl
        obtain ⟨hd, hrest⟩ := List.cons.inj hl
        exact ⟨d, by rw [List.map_eq_nil_iff.1 hrest], hd⟩
  rw [toLower_eq hd hlower]
  exact ⟨s', rfl, hs'⟩

/-! ## A line and what is left of it -/

section Strip

variable {u : LineUtil} (hu : ReadsLines u)

theorem rdropWhile_append_cons {p : Char → Bool} (a x : Text) {c : Char} (hc : p c = false) :
    (a ++ c :: x).rdropWhile p = a ++ c :: x.rdropWhile p := by
  induction x using List.reverseRecOn with
  | nil => exact List.rdropWhile_concat_neg p a c (by rw [hc]; exact Bool.false_ne_true)
  | append_singleton x d ih =>
      have happend : a ++ c :: (x ++ [d]) = (a ++ c :: x) ++ [d] := by simp
      rw [happend]
      by_cases hd : p d = true
      · rw [List.rdropWhile_concat_pos p _ d hd, ih, List.rdropWhile_concat_pos p _ d hd]
      · rw [List.rdropWhile_concat_neg p _ d hd, List.rdropWhile_concat_neg p _ d hd, happend]

theorem dropWhile_shape (p : Char → Bool) (l : Text) :
    ∃ a, (∀ c ∈ a, p c = true) ∧ l = a ++ l.dropWhile p :=
  ⟨l.takeWhile p, fun _ hc => List.mem_takeWhile_imp hc, List.takeWhile_append_dropWhile.symm⟩

theorem dropWhile_head {p : Char → Bool} {l x : Text} {c : Char} (h : l.dropWhile p = c :: x) :
    p c = false := by
  have hne : l.dropWhile p ≠ [] := by rw [h]; exact List.cons_ne_nil c x
  have hnot := List.head_dropWhile_not p hne
  simpa [h] using hnot

theorem dropWhile_append_cons {p : Char → Bool} {a : Text} (ha : ∀ c ∈ a, p c = true) {c : Char}
    (hc : p c = false)
    (x : Text) : (a ++ c :: x).dropWhile p = c :: x := by
  rw [List.dropWhile_append_of_pos ha, List.dropWhile_cons, hc]
  rfl

/-- A blank in front makes no difference. -/
theorem strip_blank (t : Text) :
    ((' ' :: t).rdropWhile isTrail).dropWhile isBlank =
      (t.rdropWhile isTrail).dropWhile isBlank := by
  induction t using List.reverseRecOn with
  | nil => rfl
  | append_singleton t d ih =>
      rw [← List.cons_append]
      by_cases hd : isTrail d = true
      · rw [List.rdropWhile_concat_pos isTrail _ d hd, List.rdropWhile_concat_pos isTrail _ d hd,
          ih]
      · rw [List.rdropWhile_concat_neg isTrail _ d hd, List.rdropWhile_concat_neg isTrail _ d hd]
        rfl

include hu

/-- The line begins with what is left of it. -/
theorem strip_prefix {line r : Text} {c : Char} (h : u.stripComments line = c :: r) :
    ∃ tail, line.dropWhile isBlank = c :: r ++ tail := by
  rw [hu.strip] at h
  have hc := dropWhile_head h
  obtain ⟨blanks, hblanks, hcut⟩ :=
    dropWhile_shape isBlank ((line.takeWhile (· ≠ '#')).rdropWhile isTrail)
  obtain ⟨trail, htrail⟩ := List.rdropWhile_prefix isTrail (line.takeWhile (· ≠ '#'))
  have hline : line = blanks ++ c :: (r ++ (trail ++ line.dropWhile (· ≠ '#'))) := by
    calc line = line.takeWhile (· ≠ '#') ++ line.dropWhile (· ≠ '#') :=
      List.takeWhile_append_dropWhile.symm
      _ = (blanks ++ c :: r) ++ trail ++ line.dropWhile (· ≠ '#') := by rw [← htrail, ← h, ← hcut]
      _ = blanks ++ c :: (r ++ (trail ++ line.dropWhile (· ≠ '#'))) := by simp
  refine ⟨trail ++ line.dropWhile (· ≠ '#'), ?_⟩
  exact (congrArg (List.dropWhile isBlank) hline).trans (dropWhile_append_cons hblanks hc _)

/-- A line that begins with text. -/
theorem strip_cons {line x : Text} {c : Char} (h : line.dropWhile isBlank = c :: x)
    (hmark : c ≠ '#')
    (htrail : isTrail c = false) :
    u.stripComments line = c :: (x.takeWhile (· ≠ '#')).rdropWhile isTrail := by
  obtain ⟨blanks, hblanks, hline⟩ := dropWhile_shape isBlank line
  rw [h] at hline
  have hc := dropWhile_head h
  have hkeep : ∀ d ∈ blanks, decide (d ≠ '#') = true := by
    intro d hd
    refine decide_eq_true fun hd' => ?_
    have hb := hblanks d hd
    rw [hd'] at hb
    exact absurd hb (by decide)
  rw [hu.strip, hline, List.takeWhile_append_of_pos hkeep, List.takeWhile_cons,
    if_pos (decide_eq_true hmark), rdropWhile_append_cons _ _ htrail,
    dropWhile_append_cons hblanks hc]

end Strip

/-! ## What the reader is handed -/

section Handed

def isInclude (u : Util) (p : Text) : Bool := (includeTarget u [] p).isSome

/-- The assignments of a text: section, key and value.  An include line hands on nothing of this
text. -/
def handed (u : LineUtil) : Int → List Text → List (Int × Text × Text)
  | _, [] => []
  | sec, line :: lines =>
    match u.stripComments line with
    | [] => handed u sec lines
    | '[' :: rest => handed u (getIniSection u.toUtil ('[' :: rest)) lines
    | p =>
      (if 0 ≤ sec ∧ isInclude u.toUtil p = false then (u.splitKeyValue p).toList.map fun kv =>
        (sec, kv) else []) ++ handed u sec lines

/-- The section of an entry, as its own header reads. -/
def sectionId (u : LineUtil) (kv : CfgKV) : Int :=
  getIniSection u.toUtil ('[' :: (kv.section ++ [']']))

/-- The values the reader is handed of a key. -/
def valuesOf (u : LineUtil) (kv : CfgKV) (sec : Int) (lines : List Text) : List Text :=
  (handed u sec lines).filterMap fun a =>
    if a.1 = sectionId u kv ∧ u.equalsNoCase a.2.1 kv.key = true then some a.2.2 else none

/-- The value that the reader leaves in force. -/
def inForce (u : LineUtil) (kv : CfgKV) (text : Text) : Option Text :=
  (valuesOf u kv (-2) (rawLines text)).getLast?

/-- Where the writer puts an entry: the reader's section there, and the lines behind. -/
def place (u : LineUtil) (kv : CfgKV) : Text → Int → List Text → Int × List Text
  | cur, sec, [] => if cur ≠ [] ∧ u.equalsNoCase cur kv.section = true then (sec, [])
      else (sectionId u kv, [])
  | cur, sec, line :: lines =>
    match headerName line with
    | some name =>
      if cur ≠ [] ∧ u.equalsNoCase cur kv.section = true then (sec, line :: lines)
      else place u kv name (getIniSection u.toUtil (u.stripComments line)) lines
    | none =>
      if cur ≠ [] ∧ u.equalsNoCase cur kv.section = true ∧ cfgLineIsKey u.toUtil line kv.key = true
        then (sec, lines)
      else place u kv cur sec lines

variable {u : LineUtil} {kv : CfgKV}

theorem handed_header {sec : Int} {line rest : Text} {lines : List Text}
    (h : u.stripComments line = '[' :: rest) :
    handed u sec (line :: lines) = handed u (getIniSection u.toUtil ('[' :: rest)) lines := by
  rw [handed, h]
  rfl

theorem handed_other {sec : Int} {line : Text} {lines : List Text}
    (hp : u.stripComments line ≠ [] ∧ ∀ rest, u.stripComments line ≠ '[' :: rest) :
    handed u sec (line :: lines) =
      (if 0 ≤ sec ∧ isInclude u.toUtil (u.stripComments line) = false then
        (u.splitKeyValue (u.stripComments line)).toList.map fun kv => (sec, kv) else []) ++
          handed u sec lines := by
  rw [handed]
  split
  · next h => exact absurd h hp.1
  · next h => exact absurd h (hp.2 _)
  · rfl

/-! ### One line -/

theorem valuesOf_append_line (sec : Int) (line : Text) (lines : List Text)
    (hline : ∀ rest, u.stripComments line ≠ '[' :: rest) :
    valuesOf u kv sec (line :: lines) = valuesOf u kv sec [line] ++ valuesOf u kv sec lines := by
  have hhanded : handed u sec (line :: lines) = handed u sec [line] ++ handed u sec lines := by
    by_cases hnil : u.stripComments line = []
    · rw [handed, handed, hnil]
      rfl
    · rw [handed_other ⟨hnil, hline⟩, handed_other ⟨hnil, hline⟩, handed, List.append_nil]
  unfold valuesOf
  rw [hhanded, List.filterMap_append]

end Handed

/-! ## The entries -/

section Entries

variable {u : LineUtil} (hu : ReadsLines u)

/-- An entry of the launcher whose line is one line. -/
structure Entry (kv : CfgKV) : Prop where
  named : (kv.section, kv.key) ∈ ownedKeys
  plain : '\n' ∉ kv.val

theorem alnum_plain {c : Char} (h : c.isAlphanum = true) :
    isTrail c = false ∧ c ∉ ['#', '=', '[', ']', '!', '\n'] := by
  constructor
  · by_contra htrail
    simp only [isTrail, isBlank, Bool.not_eq_false, Bool.or_eq_true, decide_eq_true_eq] at htrail
    rcases htrail with (rfl | rfl) | rfl <;> exact absurd h (by decide)
  · intro hmem
    simp only [List.mem_cons, List.not_mem_nil, or_false] at hmem
    rcases hmem with rfl | rfl | rfl | rfl | rfl | rfl <;> exact absurd h (by decide)

/-- A name of letters and digits in either case. -/
def plainName (name : Text) : Bool := !name.isEmpty && (name ++ fold name).all Char.isAlphanum

theorem plainName_iff (name : Text) : plainName name = true ↔ name ≠ [] ∧ ∀ c ∈ name ++ fold name,
    c.isAlphanum = true := by
  unfold plainName
  rw [Bool.and_eq_true, List.all_eq_true, Bool.not_eq_true', List.isEmpty_eq_false_iff]

theorem ownedKeys_names :
    (ownedKeys.all fun k => k.1.length.ble 63 && (plainName k.1 && plainName k.2)) = true := by
  decide

theorem ownedKeys_plain :
    ∀ k ∈ ownedKeys, (k.1 ≠ [] ∧ k.1.length ≤ 63 ∧ ∀ c ∈ k.1 ++ fold k.1, c.isAlphanum = true) ∧
    k.2 ≠ [] ∧ ∀ c ∈ k.2 ++ fold k.2, c.isAlphanum = true := by
  intro k hk
  have hnames := List.all_eq_true.1 ownedKeys_names k hk
  rw [Bool.and_eq_true, Bool.and_eq_true, plainName_iff, plainName_iff, Nat.ble_eq] at hnames
  obtain ⟨hlength, ⟨hsection, hletters⟩, hkey⟩ := hnames
  exact ⟨⟨hsection, hlength, hletters⟩, hkey⟩

theorem Entry.key_plain {kv : CfgKV} (h : Entry kv) : ∀ c ∈ kv.key, isTrail c = false ∧
    c ∉ ['#', '=', '[', ']', '!', '\n'] :=
  fun c hc => alnum_plain ((ownedKeys_plain _ h.named).2.2 c (List.mem_append_left _ hc))

theorem Entry.section_plain {kv : CfgKV} (h : Entry kv) :
    ∀ c ∈ kv.section, isTrail c = false ∧ c ∉ ['#', '=', '[', ']', '!', '\n'] :=
  fun c hc => alnum_plain ((ownedKeys_plain _ h.named).1.2.2 c (List.mem_append_left _ hc))

/-- The sections by their folded headers. -/
def iniSectionOf (header : Text) : Int :=
  if header = "[keymap]".toList then 0
  else if header = "[graphics]".toList then 1
  else if header = "[sound]".toList then 2
  else if header = "[general]".toList then 3
  else if header = "[features]".toList then 4
  else if header = "[gamepadmap]".toList then 5
  else -1

theorem iniSectionOf_owned : ∀ k ∈ ownedKeys, 0 < iniSectionOf (fold ('[' :: (k.1 ++ [']']))) ∧
    fold ('[' :: (k.1 ++ [']'])) ∈ ["[graphics]".toList, "[sound]".toList, "[general]".toList,
      "[gamepadmap]".toList] := by
  decide

/-- A number stands for one header. -/
theorem iniSectionOf_cases (header : Text) :
    iniSectionOf header = 0 ∨ header = "[graphics]".toList ∧ iniSectionOf header = 1 ∨
    header = "[sound]".toList ∧ iniSectionOf header = 2 ∨ header = "[general]".toList ∧
    iniSectionOf header = 3 ∨
    iniSectionOf header = 4 ∨ header = "[gamepadmap]".toList ∧ iniSectionOf header = 5 ∨
    iniSectionOf header = -1 := by
  unfold iniSectionOf
  repeat' split
  all_goals simp_all

theorem iniSectionOf_inj {header name : Text}
    (hname : name ∈ ["[graphics]".toList, "[sound]".toList, "[general]".toList,
      "[gamepadmap]".toList])
    (h : iniSectionOf header = iniSectionOf name) : header = name := by
  have hvalue : iniSectionOf name = 1 ∧ name = "[graphics]".toList ∨ iniSectionOf name = 2 ∧
    name = "[sound]".toList ∨
      iniSectionOf name = 3 ∧ name = "[general]".toList ∨ iniSectionOf name = 5 ∧
      name = "[gamepadmap]".toList := by
    simp only [List.mem_cons, List.not_mem_nil, or_false] at hname
    rcases hname with rfl | rfl | rfl | rfl <;> decide
  rcases iniSectionOf_cases header with hh | ⟨hh, hn⟩ | ⟨hh, hn⟩ | ⟨hh, hn⟩ | hn | ⟨hh, hn⟩ | hn <;>
    rcases hvalue with ⟨hv, hname⟩ | ⟨hv, hname⟩ | ⟨hv, hname⟩ | ⟨hv, hname⟩ <;>
    first | omega | rw [hh, hname]

include hu

theorem getIniSection_eq (p : Text) : getIniSection u.toUtil p = iniSectionOf (fold p) := by
  have hequal : ∀ t, (u.equalsNoCase p t = true) = (fold p = fold t) :=
    fun t => propext (hu.equal p t)
  unfold getIniSection iniSectionOf
  simp only [hequal]
  rfl

theorem Entry.sectionId_pos {kv : CfgKV} (h : Entry kv) : 0 < sectionId u kv := by
  unfold sectionId
  rw [getIniSection_eq hu]
  exact (iniSectionOf_owned _ h.named).1

theorem Entry.sectionId_fold {kv : CfgKV} (h : Entry kv) {p : Text}
    (hp : getIniSection u.toUtil p = sectionId u kv) :
    fold p = fold ('[' :: (kv.section ++ [']'])) := by
  unfold sectionId at hp
  rw [getIniSection_eq hu, getIniSection_eq hu] at hp
  exact iniSectionOf_inj (iniSectionOf_owned _ h.named).2 hp

/-! ### Section headers -/

omit hu in
theorem headerName_eq {line name : Text} (h : headerName line = some name) :
    ∃ nm, line.dropWhile isBlank = '[' :: nm ∧ name = (nm.takeWhile (· ≠ ']')).take 63 := by
  unfold headerName at h
  split at h
  · next nm heq => exact ⟨nm, heq, (Option.some.inj h).symm⟩
  · cases h

/-- The reader sees a header where the writer does. -/
theorem headerName_strip {line nm : Text} (h : line.dropWhile isBlank = '[' :: nm) :
    u.stripComments line = '[' :: (nm.takeWhile (· ≠ '#')).rdropWhile isTrail :=
  strip_cons hu h (by decide) (by decide)

theorem headerName_none {line : Text} (h : headerName line = none) :
    ∀ rest, u.stripComments line ≠ '[' :: rest := by
  intro rest hstrip
  obtain ⟨tail, hline⟩ := strip_prefix hu hstrip
  unfold headerName at h
  rw [hline] at h
  cases h

/-- Where the reader is in a section of an entry's name, so is the writer. -/
def Sync (u : LineUtil) (cur : Text) (sec : Int) : Prop :=
  ∀ kv, Entry kv → sec = sectionId u kv → cur ≠ [] ∧ u.equalsNoCase cur kv.section = true

theorem sync_header {line name : Text} (hname : headerName line = some name) :
    Sync u name (getIniSection u.toUtil (u.stripComments line)) := by
  intro kv h hsec
  obtain ⟨nm, hline, rfl⟩ := headerName_eq hname
  have hfold := h.sectionId_fold hu hsec
  rw [headerName_strip hu hline] at hfold
  have hheader : fold ((nm.takeWhile (· ≠ '#')).rdropWhile isTrail) = fold kv.section ++ [']'] :=
    (List.cons.inj hfold).2.trans (fold_append kv.section [']'])
  obtain ⟨name, hcut, hfoldname⟩ := fold_concat (by decide) hheader
  obtain ⟨trail, htrail⟩ := List.rdropWhile_prefix isTrail (nm.takeWhile (· ≠ '#'))
  have hnm : nm = name ++ ']' :: (trail ++ nm.dropWhile (· ≠ '#')) := by
    calc nm = nm.takeWhile (· ≠ '#') ++ nm.dropWhile (· ≠ '#') :=
      List.takeWhile_append_dropWhile.symm
      _ = name ++ [']'] ++ trail ++ nm.dropWhile (· ≠ '#') := by rw [← htrail, hcut]
      _ = name ++ ']' :: (trail ++ nm.dropWhile (· ≠ '#')) := by simp
  have hclose : ∀ c ∈ name, decide (c ≠ ']') = true := by
    intro c hc
    refine decide_eq_true ?_
    rintro rfl
    have hmem : ']' ∈ fold kv.section := by
      rw [← hfoldname]
      exact (mem_fold (by decide) (by decide)).2 hc
    exact (h.section_plain _ ((mem_fold (by decide) (by decide)).1 hmem)).2 (by decide)
  have hlength : name.length = kv.section.length := by
    rw [← fold_length name, hfoldname, fold_length]
  obtain ⟨hne, hshort, -⟩ := (ownedKeys_plain _ h.named).1
  have htake : (nm.takeWhile (· ≠ ']')).take 63 = name := by
    have hwhile : nm.takeWhile (· ≠ ']') = name := by
      conv_lhs => rw [hnm]
      rw [List.takeWhile_append_of_pos hclose, List.takeWhile_cons_of_neg (by decide),
        List.append_nil]
    rw [hwhile, List.take_of_length_le (by rw [hlength]; exact hshort)]
  rw [htake]
  refine ⟨fun hnil => hne ?_, (hu.equal _ _).2 hfoldname⟩
  rw [hnil] at hlength
  exact List.length_eq_zero_iff.1 hlength.symm

theorem valuesOf_header {kv : CfgKV} {sec : Int} {line name : Text} {lines : List Text}
    (h : headerName line = some name) :
    valuesOf u kv sec (line :: lines) =
      valuesOf u kv (getIniSection u.toUtil (u.stripComments line)) lines := by
  obtain ⟨nm, hline, -⟩ := headerName_eq h
  unfold valuesOf
  rw [handed_header (headerName_strip hu hline), ← headerName_strip hu hline]

theorem valuesOf_line {kv : CfgKV} {sec : Int} {line : Text} (lines : List Text)
    (h : headerName line = none) :
    valuesOf u kv sec (line :: lines) = valuesOf u kv sec [line] ++ valuesOf u kv sec lines :=
  valuesOf_append_line sec line lines (headerName_none hu h)

/-! ### Assignments -/

theorem cfgLineIsKey_iff {line key : Text} : cfgLineIsKey u.toUtil line key = true ↔
    fold ((lineBody line).take key.length) = fold key ∧
      (((lineBody line).drop key.length).dropWhile isBlank).head? = some '=' := by
  unfold cfgLineIsKey
  cases hstart : u.startsWithNoCase (lineBody line) key with
  | none =>
      refine ⟨fun h => absurd h Bool.false_ne_true, fun h => ?_⟩
      rw [(hu.starts _ _ _).2 ⟨h.1, rfl⟩] at hstart
      cases hstart
  | some r =>
      obtain ⟨hfold, rfl⟩ := (hu.starts _ _ _).1 hstart
      exact ⟨fun h => ⟨hfold, of_decide_eq_true h⟩, fun h => decide_eq_true h.2⟩

omit hu in
theorem ownedKeys_inj : ∀ k ∈ ownedKeys, ∀ k' ∈ ownedKeys, fold k.2 = fold k'.2 → k = k' := by
  decide

/-- A line stands for at most one key. -/
theorem Entry.matched_unique {kv kv' : CfgKV} (h : Entry kv) (h' : Entry kv') {line : Text}
    (hmatch : cfgLineIsKey u.toUtil line kv.key = true)
    (hmatch' : cfgLineIsKey u.toUtil line kv'.key = true) :
    (kv.section, kv.key) = (kv'.section, kv'.key) := by
  have hword : ∀ kv, Entry kv → cfgLineIsKey u.toUtil line kv.key = true →
      fold kv.key = fold ((lineBody line).takeWhile fun c => c.toLower.isAlphanum) := by
    intro kv h hmatch
    obtain ⟨hfold, hequals⟩ := (cfgLineIsKey_iff hu).1 hmatch
    have hkey : ∀ c ∈ (lineBody line).take kv.key.length, c.toLower.isAlphanum = true := by
      intro c hc
      have hmem : c.toLower ∈ fold kv.key := by
        rw [← hfold]
        exact List.mem_map_of_mem hc
      exact (ownedKeys_plain _ h.named).2.2 _ (List.mem_append_right _ hmem)
    have hnext : ((lineBody line).drop kv.key.length).takeWhile (fun c => c.toLower.isAlphanum) =
      [] := by
      cases hrest : (lineBody line).drop kv.key.length with
      | nil => rfl
      | cons c rest =>
          rw [hrest, List.dropWhile_cons] at hequals
          refine List.takeWhile_cons_of_neg fun hc => ?_
          split at hequals
          · next hblank =>
            unfold isBlank at hblank
            rcases of_decide_eq_true hblank with rfl | rfl <;> exact absurd hc (by decide)
          · cases Option.some.inj hequals
            exact absurd hc (by decide)
    conv_rhs => rw [← List.take_append_drop kv.key.length (lineBody line)]
    rw [List.takeWhile_append_of_pos hkey, hnext, List.append_nil, hfold]
  exact ownedKeys_inj _ h.named _ h'.named ((hword kv h hmatch).trans (hword kv' h' hmatch').symm)

/-- An assignment is its key, blanks, the equals sign and the rest. -/
theorem splitKeyValue_shape {p k v : Text} (h : u.splitKeyValue p = some (k, v)) :
    ∃ blanks rest, (∀ c ∈ blanks, isBlank c = true) ∧ p = k ++ (blanks ++ '=' :: rest) := by
  rw [hu.split] at h
  split at h
  case isFalse => cases h
  case isTrue hmem =>
    have hk : (p.takeWhile (· ≠ '=')).rdropWhile isBlank = k :=
      congrArg Prod.fst (Option.some.inj h)
    obtain ⟨rest, hrest⟩ : ∃ rest, p.dropWhile (· ≠ '=') = '=' :: rest := by
      cases hdrop : p.dropWhile (· ≠ '=') with
      | nil =>
          rw [List.dropWhile_eq_nil_iff] at hdrop
          exact absurd rfl (of_decide_eq_true (hdrop '=' hmem))
      | cons c rest =>
          have hc := of_decide_eq_false (dropWhile_head hdrop)
          exact ⟨rest, by rw [Decidable.not_not.1 hc]⟩
    refine ⟨(p.takeWhile (· ≠ '=')).rtakeWhile isBlank, rest,
      fun c hc => List.mem_rtakeWhile_imp hc, ?_⟩
    rw [← List.append_assoc, ← hk, List.rdropWhile_append_rtakeWhile, ← hrest,
      List.takeWhile_append_dropWhile]

/-- What the reader takes for an assignment, the writer takes for the key. -/
theorem Entry.line_assigns {kv : CfgKV} (h : Entry kv) {sec : Int} {line : Text}
    (hline : headerName line = none)
    (hvalues : valuesOf u kv sec [line] ≠ []) :
    sec = sectionId u kv ∧ cfgLineIsKey u.toUtil line kv.key = true := by
  by_cases hnil : u.stripComments line = []
  · refine absurd ?_ hvalues
    unfold valuesOf
    rw [handed, hnil]
    rfl
  obtain ⟨c, r, hp⟩ := List.exists_cons_of_ne_nil hnil
  obtain ⟨tail, hdrop⟩ := strip_prefix hu hp
  obtain ⟨v, hv⟩ := List.exists_mem_of_ne_nil _ hvalues
  unfold valuesOf at hv
  rw [handed_other ⟨hnil, headerName_none hu hline⟩, handed, List.append_nil, List.mem_filterMap]
    at hv
  obtain ⟨a, ha, hv⟩ := hv
  split at ha
  case isFalse => cases ha
  case isTrue =>
    obtain ⟨⟨k, v'⟩, hkv, rfl⟩ := List.mem_map.1 ha
    rw [Option.mem_toList] at hkv
    split at hv
    case isFalse => cases hv
    case isTrue hboth =>
      obtain ⟨hsec, hequal⟩ := hboth
      refine ⟨hsec, ?_⟩
      have hfold : fold k = fold kv.key := (hu.equal _ _).1 hequal
      obtain ⟨blanks, rest, hblanks, hshape⟩ := splitKeyValue_shape hu hkv
      have hlength : k.length = kv.key.length := by rw [← fold_length k, hfold, fold_length]
      have hmark : '#' ∉ k := by
        intro hmem
        have hkey : '#' ∈ fold kv.key := by
          rw [← hfold]
          exact (mem_fold (by decide) (by decide)).2 hmem
        exact (h.key_plain _ ((mem_fold (by decide) (by decide)).1 hkey)).2 (by decide)
      have hbody : lineBody line = k ++ (blanks ++ '=' :: (rest ++ tail)) := by
        have hdrop' : line.dropWhile isBlank = k ++ (blanks ++ '=' :: (rest ++ tail)) := by
          rw [hdrop, ← hp, hshape]
          simp
        cases k with
        | nil =>
            have hne := (ownedKeys_plain _ h.named).2.1
            exact absurd (List.length_eq_zero_iff.1 hlength.symm) hne
        | cons d k =>
            unfold lineBody
            rw [hdrop']
            split
            · next heq =>
              cases heq
              exact absurd List.mem_cons_self hmark
            · rfl
      rw [cfgLineIsKey_iff hu, hbody, ← hlength, List.take_left, List.drop_left,
        dropWhile_append_cons hblanks (by decide)]
      exact ⟨hfold, rfl⟩

/-! ### The lines of entries -/

omit hu in
/-- The line of an entry. -/
def entryLine (kv : CfgKV) : Text := kv.key ++ " = ".toList ++ kv.val

omit hu in
theorem Entry.rawLines_emit {kv : CfgKV} (h : Entry kv) :
    rawLines (cfgBufEmitKV kv) = [entryLine kv] := by
  refine rawLines_line ?_
  rw [List.mem_append, List.mem_append, not_or, not_or]
  exact ⟨⟨fun hmem => (h.key_plain _ hmem).2 (by decide), by decide⟩, h.plain⟩

omit hu in
theorem Entry.line_cons {kv : CfgKV} (h : Entry kv) : ∃ c key, kv.key = c :: key ∧
    (entryLine kv).dropWhile isBlank = c :: (key ++ ' ' :: '=' :: ' ' :: kv.val) := by
  obtain ⟨c, key, hkey⟩ := List.exists_cons_of_ne_nil (ownedKeys_plain _ h.named).2.1
  have hkey' : kv.key = c :: key := hkey
  have hc := (h.key_plain c (by rw [hkey']; exact List.mem_cons_self)).1
  have hblank : isBlank c = false := (Bool.or_eq_false_iff.1 hc).1
  refine ⟨c, key, hkey', ?_⟩
  unfold entryLine
  rw [hkey', List.append_assoc, List.cons_append, List.dropWhile_cons, hblank]
  rfl

omit hu in
theorem Entry.line_noHeader {kv : CfgKV} (h : Entry kv) : headerName (entryLine kv) = none := by
  obtain ⟨c, key, hkey, hline⟩ := h.line_cons
  unfold headerName
  rw [hline]
  split
  · next heq =>
    cases heq
    exact absurd (h.key_plain '[' (by rw [hkey]; exact List.mem_cons_self)).2 (by decide)
  · rfl

/-- Of the line of an entry the reader is handed the key and what it keeps of the value. -/
theorem Entry.line_split {kv : CfgKV} (h : Entry kv) :
    isInclude u.toUtil (u.stripComments (entryLine kv)) = false ∧
    u.stripComments (entryLine kv) ≠ [] ∧
    u.splitKeyValue (u.stripComments (entryLine kv)) = some (kv.key, u.stripComments kv.val) := by
  obtain ⟨c, key, hkey, hline⟩ := h.line_cons
  have hc := h.key_plain c (by rw [hkey]; exact List.mem_cons_self)
  have hmark : ∀ d ∈ key, decide (d ≠ '#') = true := by
    intro d hd
    refine decide_eq_true fun heq =>
      (h.key_plain d (by rw [hkey]; exact List.mem_cons_of_mem c hd)).2 ?_
    rw [heq]
    decide
  have hstrip : u.stripComments (entryLine kv) =
      kv.key ++ ' ' :: '=' :: (' ' :: kv.val.takeWhile (· ≠ '#')).rdropWhile isTrail := by
    have hcut : (key ++ ' ' :: '=' :: ' ' :: kv.val).takeWhile (· ≠ '#') =
        (key ++ [' ']) ++ '=' :: (' ' :: kv.val.takeWhile (· ≠ '#')) := by
      rw [List.takeWhile_append_of_pos hmark]
      simp
    rw [strip_cons hu hline (fun heq => hc.2 (by rw [heq]; decide)) hc.1, hcut,
      rdropWhile_append_cons _ _ (by decide), hkey]
    simp
  have hkeep : ∀ d ∈ kv.key, decide (d ≠ '=') = true := by
    intro d hd
    refine decide_eq_true fun heq => (h.key_plain d hd).2 ?_
    rw [heq]
    decide
  have hlast : kv.key.rdropWhile isBlank = kv.key := by
    refine List.rdropWhile_eq_self_iff.2 fun hne => ?_
    have hplain := (h.key_plain _ (List.getLast_mem hne)).1
    rw [(Bool.or_eq_false_iff.1 hplain).1]
    exact Bool.false_ne_true
  rw [hstrip]
  refine ⟨?_, fun hnil => ?_, ?_⟩
  · rw [hkey]
    unfold isInclude includeTarget
    rw [List.cons_append]
    split
    · next heq =>
      cases heq
      exact absurd hc.2 (by decide)
    · rfl
  · rw [hkey] at hnil
    cases hnil
  · have hword :
      (kv.key ++ ' ' :: '=' :: (' ' :: kv.val.takeWhile (· ≠ '#')).rdropWhile isTrail).takeWhile
      (· ≠ '=') =
        kv.key ++ [' '] := by
      rw [List.takeWhile_append_of_pos hkeep]
      rfl
    have hrest :
      (kv.key ++ ' ' :: '=' :: (' ' :: kv.val.takeWhile (· ≠ '#')).rdropWhile isTrail).dropWhile
      (· ≠ '=') =
        '=' :: (' ' :: kv.val.takeWhile (· ≠ '#')).rdropWhile isTrail := by
      rw [List.dropWhile_append_of_pos hkeep]
      rfl
    rw [hu.split, if_pos (by simp), hword, hrest, List.rdropWhile_concat_pos _ _ _ (by decide),
      hlast, List.drop_one, List.tail_cons, strip_blank, hu.strip]

theorem Entry.line_values {kv kv' : CfgKV} (h : Entry kv) (h' : Entry kv') (sec : Int) :
    valuesOf u kv sec [entryLine kv'] =
      if sec = sectionId u kv ∧ kv'.key = kv.key then [u.stripComments kv'.val] else [] := by
  obtain ⟨hinclude, hnil, hsplit⟩ := h'.line_split hu
  have hkey : u.equalsNoCase kv'.key kv.key = true ↔ kv'.key = kv.key := by
    rw [hu.equal]
    constructor
    · intro hfold
      exact congrArg Prod.snd (ownedKeys_inj _ h'.named _ h.named hfold)
    · intro heq
      rw [heq]
  have hpos := h.sectionId_pos hu
  unfold valuesOf
  rw [handed_other ⟨hnil, headerName_none hu h'.line_noHeader⟩, hsplit, handed, List.append_nil]
  by_cases hsec : sec = sectionId u kv
  · rw [if_pos ⟨by omega, hinclude⟩]
    by_cases hk : kv'.key = kv.key
    · have hself : u.equalsNoCase kv.key kv.key = true := (hu.equal _ _).2 rfl
      simp [hsec, hk, hself]
    · have hne : ¬ u.equalsNoCase kv'.key kv.key = true := fun heq => hk (hkey.1 heq)
      simp [hk, hne]
  · split <;> simp [hsec]

omit hu in
theorem rawLines_emits {es : List CfgKV} (hes : ∀ kv ∈ es, Entry kv) :
    rawLines (es.flatMap cfgBufEmitKV) = es.map entryLine := by
  rw [rawLines_flatMap cfgBufEmitKV_whole]
  induction es with
  | nil => rfl
  | cons kv es ih =>
      rw [List.forall_mem_cons] at hes
      rw [List.flatMap_cons, List.map_cons, hes.1.rawLines_emit, ih hes.2]
      rfl

/-- Entries of other keys. -/
theorem Entry.values_others {kv : CfgKV} (h : Entry kv) (sec : Int) (lines : List Text) :
    ∀ {es : List CfgKV},
    (∀ kv' ∈ es, Entry kv' ∧ kv'.key ≠ kv.key) → valuesOf u kv sec (es.map entryLine ++ lines) =
      valuesOf u kv sec lines
  | [], _ => rfl
  | kv' :: es, hes => by
      rw [List.forall_mem_cons] at hes
      rw [List.map_cons, List.cons_append, valuesOf_line hu _ hes.1.1.line_noHeader,
        h.line_values hu hes.1.1, if_neg fun hboth =>
        hes.1.2 hboth.2, values_others h sec lines hes.2]
      rfl

/-- Entries of distinct keys with the entry among them. -/
theorem Entry.values_among {kv : CfgKV} (h : Entry kv) (sec : Int) (lines : List Text) :
    ∀ {es : List CfgKV},
    (∀ kv' ∈ es, Entry kv') → (es.map CfgKV.key).Nodup → kv ∈ es →
    valuesOf u kv sec (es.map entryLine ++ lines) =
      (if sec = sectionId u kv then [u.stripComments kv.val] else []) ++ valuesOf u kv sec lines
  | [], _, _, hmem => by cases hmem
  | kv' :: es, hes, hkeys, hmem => by
      rw [List.forall_mem_cons] at hes
      rw [List.map_cons, List.nodup_cons] at hkeys
      rw [List.map_cons, List.cons_append, valuesOf_line hu _ hes.1.line_noHeader,
        h.line_values hu hes.1]
      rcases List.mem_cons.1 hmem with rfl | hmem
      · have hothers : ∀ kv' ∈ es, Entry kv' ∧ kv'.key ≠ kv.key := by
          intro kv' hkv'
          refine ⟨hes.2 kv' hkv', fun heq => hkeys.1 ?_⟩
          rw [← heq]
          exact List.mem_map_of_mem hkv'
        rw [h.values_others hu sec lines hothers]
        simp only [and_true]
      · have hne : kv'.key ≠ kv.key := by
          intro heq
          refine hkeys.1 ?_
          rw [heq]
          exact List.mem_map_of_mem hmem
        rw [if_neg fun hboth => hne hboth.2, values_among h sec lines hes.2 hkeys.2 hmem]
        rfl

/-! ### Sections that never appeared -/

/-- Entries of distinct keys. -/
structure Todo (todo : List CfgKV) : Prop where
  entries : ∀ kv ∈ todo, Entry kv
  keys : (todo.map CfgKV.key).Nodup

omit hu in
theorem Todo.sublist {todo todo' : List CfgKV} (h : Todo todo) (hsub : List.Sublist todo' todo) :
    Todo todo' :=
  ⟨fun kv hkv => h.entries kv (hsub.subset hkv), h.keys.sublist (hsub.map CfgKV.key)⟩

omit hu in
theorem Todo.eq_of_key {todo : List CfgKV} (h : Todo todo) {kv kv' : CfgKV} (hkv : kv ∈ todo)
    (hkv' : kv' ∈ todo)
    (hkey : kv'.key = kv.key) : kv' = kv := List.inj_on_of_nodup_map h.keys hkv' hkv hkey

/-- Entries of other keys. -/
def Others (kv : CfgKV) (todo : List CfgKV) : Prop := ∀ kv' ∈ todo, Entry kv' ∧ kv'.key ≠ kv.key

omit hu in
theorem Others.sublist {kv : CfgKV} {todo todo' : List CfgKV} (h : Others kv todo)
    (hsub : List.Sublist todo' todo) :
    Others kv todo' := fun kv' hkv' => h kv' (hsub.subset hkv')

omit hu in
theorem Todo.others {todo todo' : List CfgKV} {kv : CfgKV} (h : Todo todo) (hkv : kv ∈ todo)
    (hsub : List.Sublist todo' todo) (hnot : kv ∉ todo') : Others kv todo' := by
  intro kv' hkv'
  refine ⟨h.entries kv' (hsub.subset hkv'), fun hkey => hnot ?_⟩
  rw [← h.eq_of_key hkv (hsub.subset hkv') hkey]
  exact hkv'

theorem valuesOf_blank (kv : CfgKV) (sec : Int) (lines : List Text) :
    valuesOf u kv sec ([] :: lines) = valuesOf u kv sec lines := by
  have hstrip : u.stripComments [] = [] := hu.strip []
  unfold valuesOf
  rw [handed, hstrip]

/-- A new section is one that the reader knows. -/
theorem Entry.append_lines {kv : CfgKV} (h : Entry kv) {rest : List CfgKV}
    (hrest : ∀ kv' ∈ rest, Entry kv') (n : Nat)
    (kv' : CfgKV) (sec : Int) :
    valuesOf u kv' sec (rawLines (appendSections u.toUtil (n + 1) (kv :: rest))) =
      valuesOf u kv' (sectionId u kv)
        (((kv :: rest).filter fun kv' => u.equalsNoCase kv'.section kv.section).map entryLine ++
          rawLines (appendSections u.toUtil n
            (rest.filter fun kv' => !u.equalsNoCase kv'.section kv.section))) := by
  have hplain : '\n' ∉ '[' :: (kv.section ++ [']']) := by
    simp only [List.mem_cons, List.mem_append, List.not_mem_nil, or_false, not_or]
    exact ⟨by decide, fun hmem => (h.section_plain _ hmem).2 (by decide), by decide⟩
  have hheader : rawLines ("\n[".toList ++ kv.section ++ "]\n".toList) =
    [[], '[' :: (kv.section ++ [']'])] := by
    rw [sectionHeader_eq, List.cons_append, rawLines, if_pos rfl, rawLines_line hplain]
  have hkeep : ∀ c ∈ kv.section ++ [']'], decide (c ≠ '#') = true := by
    intro c hc
    refine decide_eq_true fun heq => ?_
    rcases List.mem_append.1 hc with hc | hc
    · exact (h.section_plain c hc).2 (by rw [heq]; decide)
    · rw [heq] at hc
      exact absurd hc (by decide)
  have hdrop : ('[' :: (kv.section ++ [']'])).dropWhile isBlank = '[' :: (kv.section ++ [']']) :=
    rfl
  have hstrip : u.stripComments ('[' :: (kv.section ++ [']'])) = '[' :: (kv.section ++ [']']) := by
    rw [headerName_strip hu hdrop, List.takeWhile_eq_self_iff.2 hkeep,
      List.rdropWhile_concat_neg isTrail _ _ (by decide)]
  have hname : headerName ('[' :: (kv.section ++ [']'])) =
    some (((kv.section ++ [']']).takeWhile (· ≠ ']')).take 63) := by
    unfold headerName
    rw [hdrop]
    rfl
  have hentries : ∀ kv' ∈ kv :: rest, Entry kv' := List.forall_mem_cons.2 ⟨h, hrest⟩
  rw [appendSections, List.append_assoc, rawLines_append _ (sectionHeader_whole kv), hheader,
    rawLines_append _ (.flatMap cfgBufEmitKV_whole _), rawLines_emits fun kv' hkv' =>
    hentries kv' (List.mem_filter.1 hkv').1, List.cons_append, List.cons_append, List.nil_append,
      valuesOf_blank hu, valuesOf_header hu hname, hstrip]
  rfl

theorem Entry.append_others {kv : CfgKV} (h : Entry kv) :
    ∀ (n : Nat) {todo : List CfgKV} (sec : Int), Others kv todo →
    valuesOf u kv sec (rawLines (appendSections u.toUtil n todo)) = []
  | 0, _, _, _ => rfl
  | _ + 1, [], _, _ => rfl
  | n + 1, kv' :: rest, sec, hothers => by
      have hrest : Others kv rest := hothers.sublist (List.sublist_cons_self kv' rest)
      rw [(hothers kv' List.mem_cons_self).1.append_lines hu (fun kv' hkv' => (hrest kv' hkv').1),
        h.values_others hu _ _ (hothers.sublist List.filter_sublist),
        append_others h n _ (hrest.sublist List.filter_sublist)]

theorem Entry.append_among {kv : CfgKV} (h : Entry kv) :
    ∀ (n : Nat) {todo : List CfgKV} (sec : Int), Todo todo →
    kv ∈ todo → todo.length ≤ n → valuesOf u kv sec (rawLines (appendSections u.toUtil n todo)) =
      [u.stripComments kv.val]
  | _, [], _, _, hmem, _ => by cases hmem
  | 0, _ :: _, _, _, _, hlen => by cases hlen
  | n + 1, kv' :: rest, sec, htodo, hmem, hlen => by
      have hrest : ∀ kv ∈ rest, Entry kv :=
        fun kv hkv => htodo.entries kv (List.mem_cons_of_mem _ hkv)
      have hsub : List.Sublist (rest.filter fun kv => !u.equalsNoCase kv.section kv'.section)
        (kv' :: rest) :=
        List.filter_sublist.trans (List.sublist_cons_self kv' rest)
      rw [(htodo.entries kv' List.mem_cons_self).append_lines hu hrest]
      by_cases hsame : u.equalsNoCase kv.section kv'.section = true
      · have hsec : sectionId u kv' = sectionId u kv := by
          have hfold : fold ('[' :: (kv'.section ++ [']'])) =
            fold ('[' :: (kv.section ++ [']'])) := by
            change '['.toLower :: fold (kv'.section ++ [']']) =
              '['.toLower :: fold (kv.section ++ [']'])
            rw [fold_append, fold_append, (hu.equal _ _).1 hsame]
          unfold sectionId
          rw [getIniSection_eq hu, getIniSection_eq hu, hfold]
        have hnot : kv ∉ rest.filter fun kv => !u.equalsNoCase kv.section kv'.section := by
          rw [List.mem_filter, hsame]
          exact fun hboth => absurd hboth.2 (by decide)
        have htoday : Todo ((kv' :: rest).filter fun kv => u.equalsNoCase kv.section kv'.section) :=
          htodo.sublist List.filter_sublist
        rw [h.values_among hu _ _ htoday.entries htoday.keys (List.mem_filter.2 ⟨hmem, hsame⟩),
          if_pos hsec, h.append_others hu n _ (htodo.others hmem hsub hnot), List.append_nil]
      · have hne : kv ≠ kv' := by
          rintro rfl
          exact hsame ((hu.equal _ _).2 rfl)
        have hmem' : kv ∈ rest.filter fun kv => !u.equalsNoCase kv.section kv'.section := by
          rw [Bool.not_eq_true] at hsame
          refine List.mem_filter.2 ⟨(List.mem_cons.1 hmem).resolve_left hne, ?_⟩
          rw [hsame]
          rfl
        have hnot : kv ∉ (kv' :: rest).filter fun kv =>
          u.equalsNoCase kv.section kv'.section := fun hboth =>
          hsame (List.mem_filter.1 hboth).2
        have hlength : (rest.filter fun kv => !u.equalsNoCase kv.section kv'.section).length ≤ n :=
          (List.length_filter_le _ _).trans (Nat.le_of_succ_le_succ hlen)
        rw [h.values_others hu _ _ (htodo.others hmem List.filter_sublist hnot),
          append_among h n _ (htodo.sublist hsub) hmem' hlength]

/-! ### The run of the writer -/

/-- The entries that leaving a section appends. -/
def flushed (u : LineUtil) (todo : List CfgKV) (cur : Text) : List CfgKV :=
  if cur = [] then [] else todo.filter fun kv => u.equalsNoCase cur kv.section

omit hu in
theorem flush_lines {todo : List CfgKV} (h : ∀ kv ∈ todo, Entry kv) (cur : Text) :
    rawLines (cfgFlushSection u.toUtil todo cur).1 = (flushed u todo cur).map entryLine := by
  unfold cfgFlushSection flushed
  split
  · rfl
  · exact rawLines_emits fun kv hkv => h kv (List.mem_filter.1 hkv).1

omit hu in
theorem flushed_sublist (todo : List CfgKV) (cur : Text) :
    List.Sublist (flushed u todo cur) todo := by
  unfold flushed
  split
  · exact List.nil_sublist _
  · exact List.filter_sublist

omit hu in
theorem flush_sublist (todo : List CfgKV) (cur : Text) :
    List.Sublist (cfgFlushSection u.toUtil todo cur).2 todo := by
  unfold cfgFlushSection
  split
  · exact List.Sublist.refl _
  · exact List.filter_sublist

omit hu in
theorem mem_flushed {todo : List CfgKV} {cur : Text} {kv : CfgKV} :
    kv ∈ flushed u todo cur ↔ kv ∈ todo ∧ cur ≠ [] ∧ u.equalsNoCase cur kv.section = true := by
  unfold flushed
  split
  · next hcur => simp [hcur]
  · next hcur => simp [hcur]

omit hu in
theorem mem_flush {todo : List CfgKV} {cur : Text} {kv : CfgKV} :
    kv ∈ (cfgFlushSection u.toUtil todo cur).2 ↔
    kv ∈ todo ∧ ¬(cur ≠ [] ∧ u.equalsNoCase cur kv.section = true) := by
  unfold cfgFlushSection
  split
  · next hcur => simp [hcur]
  · next hcur => simp [hcur]

omit hu in
theorem matchKey_line {todo : List CfgKV} {cur line : Text} {kv : CfgKV}
    (h : matchKey u.toUtil todo cur line = some kv) :
    kv ∈ todo ∧ cur ≠ [] ∧ u.equalsNoCase cur kv.section = true ∧
    cfgLineIsKey u.toUtil line kv.key = true := by
  have hmem := matchKey_mem h
  unfold matchKey at h
  split at h
  · cases h
  · next hcur =>
    have hfound : (u.equalsNoCase cur kv.section && cfgLineIsKey u.toUtil line kv.key) = true :=
      List.find?_some
        (p := fun kv : CfgKV => u.equalsNoCase cur kv.section && cfgLineIsKey u.toUtil line kv.key)
        h
    exact ⟨hmem, hcur, Bool.and_eq_true_iff.1 hfound⟩

/-- Once an entry is written, the values read behind it are those of the lines that are left. -/
theorem Entry.values_written {kv : CfgKV} (h : Entry kv) :
    ∀ {lines : List Text} {todo : List CfgKV} {cur : Text}
    (sec : Int), Others kv todo → (∀ line ∈ lines, '\n' ∉ line) →
    valuesOf u kv sec (rawLines (writeLines u.toUtil todo cur lines)) =
      valuesOf u kv sec lines := by
  intro lines
  induction lines with
  | nil =>
      intro todo cur sec hothers _
      rw [writeLines, rawLines_append _ (flush_whole todo cur), flush_lines fun kv hkv =>
        (hothers kv hkv).1, h.values_others hu _ _ (hothers.sublist (flushed_sublist todo cur)),
        h.append_others hu _ _ (hothers.sublist (flush_sublist todo cur))]
      rfl
  | cons line lines ih =>
      intro todo cur sec hothers hplain
      rw [List.forall_mem_cons] at hplain
      rw [writeLines]
      cases hname : headerName line with
      | some name =>
          dsimp only
          rw [List.append_assoc, rawLines_append _ (flush_whole todo cur),
            rawLines_append _ (whole_line line), rawLines_line hplain.1, flush_lines fun kv hkv =>
            (hothers kv hkv).1, h.values_others hu _ _ (hothers.sublist (flushed_sublist todo cur)),
              List.singleton_append,
            valuesOf_header hu hname, valuesOf_header hu hname,
            ih _ (hothers.sublist (flush_sublist todo cur)) hplain.2]
      | none =>
          dsimp only
          rw [valuesOf_line hu lines hname]
          cases hmatch : matchKey u.toUtil todo cur line with
          | some kv' =>
              -- a line taken for another key is no assignment of this one
              obtain ⟨hmem, -, -, hline⟩ := matchKey_line hmatch
              obtain ⟨h', hkey⟩ := hothers kv' hmem
              have hnone : valuesOf u kv sec [line] = [] := by
                by_contra hvalues
                have hboth := h.matched_unique hu h' (h.line_assigns hu hname hvalues).2 hline
                exact hkey (congrArg Prod.snd hboth).symm
              dsimp only
              rw [hnone, rawLines_append _ (cfgBufEmitKV_whole kv'), h'.rawLines_emit,
                List.singleton_append, valuesOf_line hu _ h'.line_noHeader, h.line_values hu h',
                if_neg fun hb => hkey hb.2, ih _ (hothers.sublist List.erase_sublist) hplain.2]
          | none =>
              dsimp only
              rw [rawLines_append _ (whole_line line), rawLines_line hplain.1,
                List.singleton_append, valuesOf_line hu _ hname, ih _ hothers hplain.2]

omit hu in
/-- What the reader is handed of an entry put at a place: the entry, if its section is the reader's,
and the lines behind. -/
def placed (u : LineUtil) (kv : CfgKV) (pl : Int × List Text) : List Text :=
  (if pl.1 = sectionId u kv then [u.stripComments kv.val] else []) ++ valuesOf u kv pl.1 pl.2

omit hu in
theorem place_header {kv : CfgKV} {cur : Text} {sec : Int} {line name : Text} {lines : List Text}
    (hname : headerName line = some name) : place u kv cur sec (line :: lines) =
      if cur ≠ [] ∧ u.equalsNoCase cur kv.section = true then (sec, line :: lines)
      else place u kv name (getIniSection u.toUtil (u.stripComments line)) lines := by
  rw [place, hname]

omit hu in
theorem place_line {kv : CfgKV} {cur : Text} {sec : Int} {line : Text} {lines : List Text}
    (hname : headerName line = none) : place u kv cur sec (line :: lines) =
      if cur ≠ [] ∧ u.equalsNoCase cur kv.section = true ∧ cfgLineIsKey u.toUtil line kv.key = true
        then (sec, lines)
      else place u kv cur sec lines := by
  rw [place, hname]

/-- The first line that stands for the entry is found. -/
theorem Todo.matchKey_self {todo : List CfgKV} (htodo : Todo todo) {kv : CfgKV} (hmem : kv ∈ todo)
    {cur line : Text}
    (hin : cur ≠ [] ∧ u.equalsNoCase cur kv.section = true ∧
      cfgLineIsKey u.toUtil line kv.key = true) :
    matchKey u.toUtil todo cur line = some kv := by
  have hsome : (matchKey u.toUtil todo cur line).isSome = true := by
    unfold matchKey
    rw [if_neg hin.1, List.find?_isSome]
    exact ⟨kv, hmem, Bool.and_eq_true_iff.2 hin.2⟩
  obtain ⟨kv', hmatch⟩ := Option.isSome_iff_exists.1 hsome
  obtain ⟨hmem', -, -, hline⟩ := matchKey_line hmatch
  have hboth := (htodo.entries kv' hmem').matched_unique hu (htodo.entries kv hmem) hline hin.2.2
  rw [hmatch, htodo.eq_of_key hmem hmem' (congrArg Prod.snd hboth)]

/-- At the end of the file: the entry is written with its section, or with the sections behind. -/
theorem Entry.values_end {kv : CfgKV} (h : Entry kv) {todo : List CfgKV} (htodo : Todo todo)
    (hmem : kv ∈ todo) (cur : Text) (sec : Int) :
    valuesOf u kv sec (rawLines (writeLines u.toUtil todo cur [])) =
      placed u kv (place u kv cur sec []) := by
  rw [writeLines, rawLines_append _ (flush_whole todo cur), flush_lines htodo.entries, place]
  by_cases hin : cur ≠ [] ∧ u.equalsNoCase cur kv.section = true
  · have hnot : kv ∉ (cfgFlushSection u.toUtil todo cur).2 := fun hkv => (mem_flush.1 hkv).2 hin
    have hflushed := htodo.sublist (flushed_sublist (u := u) todo cur)
    rw [if_pos hin, h.values_among hu _ _ hflushed.entries hflushed.keys
      (mem_flushed.2 ⟨hmem, hin⟩),
      h.append_others hu _ _ (htodo.others hmem (flush_sublist todo cur) hnot)]
    rfl
  · have hnot : kv ∉ flushed u todo cur := fun hkv => hin (mem_flushed.1 hkv).2
    rw [if_neg hin, h.values_others hu _ _ (htodo.others hmem (flushed_sublist todo cur) hnot),
      h.append_among hu _ _ (htodo.sublist (flush_sublist todo cur)) (mem_flush.2 ⟨hmem, hin⟩)
        (flush_sublist todo cur).length_le]
    unfold placed
    rw [if_pos rfl]
    rfl

/-- At a header: the entry is written before it if its section ends there, else it is still to be
written behind. -/
theorem Entry.values_header {kv : CfgKV} (h : Entry kv) {lines : List Text} {todo : List CfgKV}
    (htodo : Todo todo) (hmem : kv ∈ todo) {cur line name : Text} {sec : Int}
    (hname : headerName line = some name) (hplain : '\n' ∉ line ∧ ∀ l ∈ lines, '\n' ∉ l)
    (hrest : kv ∈ (cfgFlushSection u.toUtil todo cur).2 →
      valuesOf u kv (getIniSection u.toUtil (u.stripComments line))
        (rawLines (writeLines u.toUtil (cfgFlushSection u.toUtil todo cur).2 name lines)) =
      placed u kv (place u kv name (getIniSection u.toUtil (u.stripComments line)) lines)) :
    valuesOf u kv sec (rawLines (writeLines u.toUtil todo cur (line :: lines))) =
      placed u kv (place u kv cur sec (line :: lines)) := by
  rw [writeLines, hname]
  dsimp only
  rw [List.append_assoc, rawLines_append _ (flush_whole todo cur),
    rawLines_append _ (whole_line line), rawLines_line hplain.1, flush_lines htodo.entries,
    List.singleton_append, place_header hname]
  by_cases hin : cur ≠ [] ∧ u.equalsNoCase cur kv.section = true
  · have hnot : kv ∉ (cfgFlushSection u.toUtil todo cur).2 := fun hkv => (mem_flush.1 hkv).2 hin
    have hflushed := htodo.sublist (flushed_sublist (u := u) todo cur)
    have hothers := htodo.others hmem (flush_sublist todo cur) hnot
    rw [if_pos hin, h.values_among hu _ _ hflushed.entries hflushed.keys
      (mem_flushed.2 ⟨hmem, hin⟩), valuesOf_header hu hname,
      h.values_written hu _ hothers hplain.2]
    unfold placed
    rw [valuesOf_header hu hname]
  · have hnot : kv ∉ flushed u todo cur := fun hkv => hin (mem_flushed.1 hkv).2
    rw [if_neg hin, h.values_others hu _ _ (htodo.others hmem (flushed_sublist todo cur) hnot),
      valuesOf_header hu hname, hrest (mem_flush.2 ⟨hmem, hin⟩)]

/-- At another line: the entry is written in its place if it is the one the line stands for, else it
is still to be written behind. -/
theorem Entry.values_line {kv : CfgKV} (h : Entry kv) {lines : List Text} {todo : List CfgKV}
    (htodo : Todo todo) (hmem : kv ∈ todo) {cur line : Text} {sec : Int} (hsync : Sync u cur sec)
    (hname : headerName line = none) (hplain : '\n' ∉ line ∧ ∀ l ∈ lines, '\n' ∉ l)
    (hrest : ∀ {rest : List CfgKV}, Todo rest → kv ∈ rest →
      valuesOf u kv sec (rawLines (writeLines u.toUtil rest cur lines)) =
        placed u kv (place u kv cur sec lines)) :
    valuesOf u kv sec (rawLines (writeLines u.toUtil todo cur (line :: lines))) =
      placed u kv (place u kv cur sec (line :: lines)) := by
  rw [writeLines, hname]
  dsimp only
  rw [place_line hname]
  by_cases hin : cur ≠ [] ∧ u.equalsNoCase cur kv.section = true ∧
    cfgLineIsKey u.toUtil line kv.key = true
  · have hnot : kv ∉ todo.erase kv := (htodo.keys.of_map CfgKV.key).not_mem_erase
    have hothers := htodo.others hmem List.erase_sublist hnot
    rw [if_pos hin, htodo.matchKey_self hu hmem hin]
    dsimp only
    rw [rawLines_append _ (cfgBufEmitKV_whole kv), h.rawLines_emit, List.singleton_append,
      valuesOf_line hu _ h.line_noHeader, h.line_values hu h, h.values_written hu _ hothers hplain.2]
    simp only [and_true]
    rfl
  · -- before its place no line assigns the key
    have hnone : valuesOf u kv sec [line] = [] := by
      by_contra hvalues
      obtain ⟨hsec, hline⟩ := h.line_assigns hu hname hvalues
      obtain ⟨hcur, hequal⟩ := hsync kv h hsec
      exact hin ⟨hcur, hequal, hline⟩
    rw [if_neg hin]
    cases hmatch : matchKey u.toUtil todo cur line with
    | some kv' =>
        obtain ⟨hmem', hcur, hequal, hline⟩ := matchKey_line hmatch
        have hne : kv ≠ kv' := by
          rintro rfl
          exact hin ⟨hcur, hequal, hline⟩
        have hkey : kv'.key ≠ kv.key := fun heq => hne (htodo.eq_of_key hmem hmem' heq).symm
        have h' := htodo.entries kv' hmem'
        dsimp only
        rw [rawLines_append _ (cfgBufEmitKV_whole kv'), h'.rawLines_emit, List.singleton_append,
          valuesOf_line hu _ h'.line_noHeader, h.line_values hu h', if_neg fun hb => hkey hb.2,
          hrest (htodo.sublist List.erase_sublist) ((List.mem_erase_of_ne hne).2 hmem)]
        rfl
    | none =>
        dsimp only
        rw [rawLines_append _ (whole_line line), rawLines_line hplain.1, List.singleton_append,
          valuesOf_line hu _ hname, hnone, hrest htodo hmem]
        rfl

/-- What the reader is handed of a key is the entry at its place and what the lines behind the place
assign. -/
theorem Entry.values_writeLines {kv : CfgKV} (h : Entry kv) :
    ∀ {lines : List Text} {todo : List CfgKV} {cur : Text} {sec : Int}, Todo todo → kv ∈ todo →
      Sync u cur sec → (∀ line ∈ lines, '\n' ∉ line) →
      valuesOf u kv sec (rawLines (writeLines u.toUtil todo cur lines)) =
        placed u kv (place u kv cur sec lines) := by
  intro lines
  induction lines with
  | nil =>
      intro todo cur sec htodo hmem _ _
      exact h.values_end hu htodo hmem cur sec
  | cons line lines ih =>
      intro todo cur sec htodo hmem hsync hplain
      rw [List.forall_mem_cons] at hplain
      cases hname : headerName line with
      | some name =>
          exact h.values_header hu htodo hmem hname hplain fun hkept =>
            ih (htodo.sublist (flush_sublist todo cur)) hkept (sync_header hu hname) hplain.2
      | none =>
          exact h.values_line hu htodo hmem hsync hname hplain fun hrest hkept =>
            ih hrest hkept hsync hplain.2

end Entries

/-! ## The settings -/

section Settings

variable {u : LineUtil} (hu : ReadsLines u)

/-- The lines of a file as the writer sees them. -/
def fileLines (file : Text) : List Text := (rawLines (file.takeWhile (· ≠ '\x00'))).map lineBuffer

/-- The entry stays in force at a place: the last of the lines behind that assigns the key gives the
same value, or none does, the section is one for the reader, and the value is read as it is held. -/
def Lasting (u : LineUtil) (cfg : Launcher) (kv : CfgKV) (pl : Int × List Text) : Prop :=
  match (valuesOf u kv pl.1 pl.2).getLast? with
  | some value => value = kv.val
  | none => pl.1 = sectionId u kv ∧ u.stripComments kv.val = kv.val ∧
      ¬(cfg.windowScale = 0 ∧ kv.key = "WindowScale".toList)

instance (u : LineUtil) (cfg : Launcher) (kv : CfgKV) (pl : Int × List Text) :
    Decidable (Lasting u cfg kv pl) :=
  match h : (valuesOf u kv pl.1 pl.2).getLast? with
  | some value => decidable_of_iff (value = kv.val) (by unfold Lasting; rw [h])
  | none =>
    decidable_of_iff (pl.1 = sectionId u kv ∧ u.stripComments kv.val = kv.val ∧
      ¬(cfg.windowScale = 0 ∧ kv.key = "WindowScale".toList)) (by unfold Lasting; rw [h])

theorem decimal_newline (n : Nat) : '\n' ∉ decimal n := fun h =>
  absurd (Nat.isDigit_of_mem_toDigits (by decide) (by decide) h) (by decide)

theorem decimal_length {n : Nat} (h : n < 65536) : (decimal n).length ≤ 599 := by
  have hfive : (decimal n).length ≤ 5 :=
    (Nat.length_toDigits_le_iff (by decide) (by decide)).2 (by omega)
  omega

theorem flagText_plain (b : Bool) : '\n' ∉ flagText b ∧ (flagText b).length ≤ 599 := by
  cases b <;> decide

theorem boolText_plain (b : Bool) : '\n' ∉ boolText b ∧ (boolText b).length ≤ 599 := by
  cases b <;> decide

theorem widescreenModeName_plain (mode : UInt8) :
    '\n' ∉ widescreenModeName mode ∧ (widescreenModeName mode).length ≤ 599 := by
  unfold widescreenModeName
  split
  · decide
  · split <;> decide

theorem byte_length (n : UInt8) : (decimal n.toNat).length ≤ 599 :=
  decimal_length (Nat.lt_trans n.toNat_lt (by decide))

theorem settings_length (cfg : Launcher) : ∀ kv ∈ settings cfg, kv.val.length ≤ 599 := by
  have hdir := cfg.msu1Dir.2
  have hname := cfg.netplayPlayerName.2
  simp only [settings, List.forall_mem_cons]
  exact ⟨(widescreenModeName_plain _).2, (flagText_plain _).2, (flagText_plain _).2,
    decimal_length cfg.audioFreq.toNat_lt, (flagText_plain _).2, by
    omega, (boolText_plain _).2, (boolText_plain _).2, (flagText_plain _).2, by omega,
    byte_length _, byte_length _, byte_length _, List.forall_mem_nil _⟩

theorem settings_newline {cfg : Launcher} (hdir : '\n' ∉ cfg.msu1Dir.val)
    (hname : '\n' ∉ cfg.netplayPlayerName.val) :
    ∀ kv ∈ settings cfg, '\n' ∉ kv.val := by
  simp only [settings, List.forall_mem_cons]
  exact ⟨(widescreenModeName_plain _).1, (flagText_plain _).1, (flagText_plain _).1,
    decimal_newline _, (flagText_plain _).1, hdir, (boolText_plain _).1, (boolText_plain _).1,
    (flagText_plain _).1, hname, decimal_newline _, decimal_newline _, decimal_newline _,
    List.forall_mem_nil _⟩

/-- What is written is what is held, but for a window scale of 0. -/
theorem kvs_eq (cfg : Launcher) : kvs cfg =
    ⟨"Graphics".toList, "WindowScale".toList,
      decimal (if cfg.windowScale = 0 then 3 else cfg.windowScale.toNat)⟩ ::
      settings cfg := by
  have hscale : (if cfg.windowScale = 0 then 3 else cfg.windowScale.toNat) < 65536 := by
    split
    · decide
    · exact Nat.lt_trans cfg.windowScale.toNat_lt (by decide)
  unfold kvs entries
  rw [List.map_cons, List.take_of_length_le (decimal_length hscale)]
  congr 1
  refine (List.map_congr_left fun kv hkv => ?_).trans (List.map_id _)
  rw [List.take_of_length_le (settings_length cfg kv hkv)]
  rfl

theorem kvs_todo {cfg : Launcher} (hdir : '\n' ∉ cfg.msu1Dir.val)
    (hname : '\n' ∉ cfg.netplayPlayerName.val) :
    Todo (kvs cfg) := by
  have hkeys : (kvs cfg).map CfgKV.key = ownedKeys.map Prod.snd := rfl
  refine ⟨fun kv hkv => ⟨kvs_owned cfg kv hkv, ?_⟩, ?_⟩
  · rw [kvs_eq, List.mem_cons] at hkv
    rcases hkv with rfl | hkv
    · exact decimal_newline _
    · exact settings_newline hdir hname kv hkv
  · rw [hkeys]
    decide

include hu

/-- The reader of the text written is handed an entry at its place and the lines behind. -/
theorem valuesOf_writeConfigFile {cfg : Launcher} (hdir : '\n' ∉ cfg.msu1Dir.val)
    (hname : '\n' ∉ cfg.netplayPlayerName.val) (file : Text) {kv : CfgKV} (hkv : kv ∈ kvs cfg) :
    valuesOf u kv (-2) (rawLines (writeConfigFile u.toUtil cfg file)) =
      placed u kv (place u kv [] (-2) (fileLines file)) := by
  have htodo := kvs_todo hdir hname
  have hsync : Sync u [] (-2) := by
    intro kv' h' hsec
    have hpos := h'.sectionId_pos hu
    omega
  refine (htodo.entries kv hkv).values_writeLines hu htodo hkv hsync fun line hline hmem => ?_
  obtain ⟨raw, hraw, rfl⟩ := List.mem_map.1 hline
  exact rawLines_newline raw hraw ((lineBuffer_isInitial raw).subset hmem)

omit hu in
theorem sectionId_val (kv : CfgKV) (w : Text) : sectionId u { kv with val := w } = sectionId u kv :=
  rfl

omit hu in
theorem valuesOf_val (kv : CfgKV) (w : Text) (sec : Int) (lines : List Text) :
    valuesOf u { kv with val := w } sec lines = valuesOf u kv sec lines := rfl

omit hu in
/-- The place does not depend on the value. -/
theorem place_val (kv : CfgKV) (w : Text) : ∀ (lines : List Text) (cur : Text) (sec : Int),
    place u { kv with val := w } cur sec lines = place u kv cur sec lines := by
  intro lines
  induction lines with
  | nil => intro cur sec; rfl
  | cons line lines ih =>
      intro cur sec
      cases hname : headerName line with
      | some name => rw [place_header hname, place_header hname, ih]
      | none => rw [place_line hname, place_line hname, ih]

/-- Values are parts of lines. -/
theorem valuesOf_newline {kv : CfgKV} :
    ∀ {lines : List Text} {sec : Int}, (∀ line ∈ lines, '\n' ∉ line) →
    ∀ value ∈ valuesOf u kv sec lines, '\n' ∉ value := by
  intro lines
  induction lines with
  | nil =>
      intro sec _ value hvalue
      cases hvalue
  | cons line lines ih =>
      intro sec hplain value hvalue
      rw [List.forall_mem_cons] at hplain
      cases hname : headerName line with
      | some name =>
          rw [valuesOf_header hu hname] at hvalue
          exact ih hplain.2 value hvalue
      | none =>
          rw [valuesOf_line hu lines hname, List.mem_append] at hvalue
          rcases hvalue with hvalue | hvalue
          · by_cases hnil : u.stripComments line = []
            · unfold valuesOf at hvalue
              rw [handed, hnil] at hvalue
              cases hvalue
            · unfold valuesOf at hvalue
              rw [handed_other ⟨hnil, headerName_none hu hname⟩, handed, List.append_nil,
                List.mem_filterMap] at hvalue
              obtain ⟨a, ha, hvalue⟩ := hvalue
              split at ha
              case isFalse => cases ha
              case isTrue =>
                obtain ⟨kv', hkv', rfl⟩ := List.mem_map.1 ha
                rw [Option.mem_toList, hu.split] at hkv'
                split at hkv'
                case isFalse => cases hkv'
                case isTrue =>
                  split at hvalue
                  case isFalse => cases hvalue
                  case isTrue =>
                    cases hkv'
                    cases hvalue
                    intro hmem
                    have hline : '\n' ∈ u.stripComments line :=
                      ((List.dropWhile_sublist _).trans
                        ((List.drop_sublist _ _).trans (List.dropWhile_sublist _))).subset hmem
                    rw [hu.strip] at hline
                    exact hplain.1 (((List.dropWhile_sublist _).trans
                      ((List.rdropWhile_prefix _ _).sublist.trans
                        (List.takeWhile_sublist _))).subset hline)
          · exact ih hplain.2 value hvalue

/-- What the reader leaves in force of an entry that is written with the value `w`. -/
theorem inForce_writeConfigFile {cfg : Launcher} (hdir : '\n' ∉ cfg.msu1Dir.val)
    (hname : '\n' ∉ cfg.netplayPlayerName.val) (file : Text) {kv : CfgKV} {w : Text}
    (hkv : { kv with val := w } ∈ kvs cfg) :
    inForce u kv (writeConfigFile u.toUtil cfg file) =
      ((valuesOf u kv (place u kv [] (-2) (fileLines file)).1
        (place u kv [] (-2) (fileLines file)).2).getLast?).or
        (if (place u kv [] (-2) (fileLines file)).1 = sectionId u kv then some (u.stripComments w)
          else none) := by
  have hvalues := valuesOf_writeConfigFile hu hdir hname file hkv
  rw [valuesOf_val, place_val] at hvalues
  unfold inForce
  rw [hvalues]
  unfold placed
  rw [sectionId_val, valuesOf_val, List.getLast?_append]
  split <;> rfl

/-- The entry is written with its value, and read back as it is held, but for a window scale of 0.
-/
theorem written_value (cfg : Launcher) {kv : CfgKV} (hkv : kv ∈ entries cfg.windowScale.toNat cfg) :
    ∃ w, { kv with val := w } ∈ kvs cfg ∧ (u.stripComments w = kv.val ↔
      u.stripComments kv.val = kv.val ∧
      ¬(cfg.windowScale = 0 ∧ kv.key = "WindowScale".toList)) := by
  rw [kvs_eq]
  rcases List.mem_cons.1 hkv with rfl | hkv
  · refine ⟨_, List.mem_cons_self, ?_⟩
    by_cases hzero : cfg.windowScale = 0
    · have hthree : u.stripComments (decimal 3) = decimal 3 := (hu.strip _).trans (by decide)
      have hne : ¬ decimal 3 = decimal 0 := by decide
      have hscale : decimal cfg.windowScale.toNat = decimal 0 := by rw [hzero]; rfl
      rw [if_pos hzero, hthree, hscale]
      exact ⟨fun h => absurd h hne, fun h => absurd ⟨hzero, rfl⟩ h.2⟩
    · rw [if_neg hzero]
      exact ⟨fun h => ⟨h, fun hboth => hzero hboth.1⟩, fun h => h.1⟩
  · have hkeys : "WindowScale".toList ∉ (settings cfg).map CfgKV.key := by
      have hlist : (settings cfg).map CfgKV.key = ownedKeys.tail.map Prod.snd := rfl
      rw [hlist]
      decide
    have hkey : kv.key ≠ "WindowScale".toList := fun heq => hkeys (heq ▸ List.mem_map_of_mem hkv)
    exact ⟨kv.val, List.mem_cons_of_mem _ hkv, fun h => ⟨h, fun hboth => hkey hboth.2⟩,
      fun h => h.1⟩

/-- **Every setting of the launcher is in force in the text written exactly when** no text value
holds a newline and every entry lasts at its place. -/
theorem launcherSettings_persist_iff (cfg : Launcher) (file : Text) :
    (∀ kv ∈ entries cfg.windowScale.toNat cfg, inForce u kv (writeConfigFile u.toUtil cfg file) =
      some kv.val) ↔
      '\n' ∉ cfg.msu1Dir.val ∧ '\n' ∉ cfg.netplayPlayerName.val ∧
        ∀ kv ∈ entries cfg.windowScale.toNat cfg,
        Lasting u cfg kv (place u kv [] (-2) (fileLines file)) := by
  have hplain : (∀ kv ∈ entries cfg.windowScale.toNat cfg,
      inForce u kv (writeConfigFile u.toUtil cfg file) = some kv.val) →
      ∀ kv ∈ entries cfg.windowScale.toNat cfg, '\n' ∉ kv.val := fun hforce kv hkv =>
    valuesOf_newline hu rawLines_newline _ (List.mem_of_getLast? (hforce kv hkv))
  have hentry : '\n' ∉ cfg.msu1Dir.val → '\n' ∉ cfg.netplayPlayerName.val →
    ∀ kv ∈ entries cfg.windowScale.toNat cfg,
      (inForce u kv (writeConfigFile u.toUtil cfg file) = some kv.val ↔
        Lasting u cfg kv (place u kv [] (-2) (fileLines file))) := by
    intro hdir hname kv hkv
    obtain ⟨w, hw, hread⟩ := written_value hu cfg hkv
    rw [inForce_writeConfigFile hu hdir hname file hw]
    unfold Lasting
    cases (valuesOf u kv (place u kv [] (-2) (fileLines file)).1
      (place u kv [] (-2) (fileLines file)).2).getLast? with
    | some value =>
        rw [Option.some_or]
        exact ⟨Option.some.inj, congrArg some⟩
    | none =>
        rw [Option.none_or]
        by_cases hsec : (place u kv [] (-2) (fileLines file)).1 = sectionId u kv
        · rw [if_pos hsec]
          exact ⟨fun h => ⟨hsec, hread.1 (Option.some.inj h)⟩, fun h => congrArg some (hread.2 h.2)⟩
        · rw [if_neg hsec]
          exact ⟨fun h => (by cases h), fun h => absurd h.1 hsec⟩
  constructor
  · intro hforce
    have hdir : '\n' ∉ cfg.msu1Dir.val :=
      hplain hforce ⟨"Sound".toList, "Msu1Dir".toList, _⟩ (by simp [entries, settings])
    have hname : '\n' ∉ cfg.netplayPlayerName.val :=
      hplain hforce ⟨"General".toList, "NetplayPlayerName".toList, _⟩ (by simp [entries, settings])
    exact ⟨hdir, hname, fun kv hkv => (hentry hdir hname kv hkv).1 (hforce kv hkv)⟩
  · rintro ⟨hdir, hname, hlast⟩ kv hkv
    exact (hentry hdir hname kv hkv).2 (hlast kv hkv)

end Settings

/-! ## Two files -/

def plainLineUtil : LineUtil where
  toUtil := plainUtil
  stripComments s := ((s.takeWhile (· ≠ '#')).rdropWhile isTrail).dropWhile isBlank

theorem plainLineUtil_reads : ReadsLines plainLineUtil where
  equal s t := decide_eq_true_iff
  starts s p r := by
    simp only [plainLineUtil, plainUtil]
    split
    case isTrue h => exact ⟨fun hr => ⟨h, Option.some.inj hr⟩, fun hr => congrArg some hr.2⟩
    case isFalse h => exact ⟨fun hr => (by cases hr), fun hr => absurd hr.1 h⟩
  split s := by
    rw [List.drop_one]
    rfl
  strip s := rfl

/-- A commented example alone. -/
theorem launcherSettings_persist_example :
    inForce plainLineUtil ⟨"Sound".toList, "EnableAudio".toList, "1".toList⟩
      (writeConfigFile plainUtil launcherDefaults "[Sound]\n#EnableAudio = 0\n".toList) =
        some "1".toList :=
  (launcherSettings_persist_iff plainLineUtil_reads launcherDefaults
    "[Sound]\n#EnableAudio = 0\n".toList).2
    ⟨by decide, by decide, by decide +kernel⟩ _ (by decide)

/-- The commented example is replaced, and the line of the user behind it stays in force. -/
theorem launcherSettings_lost : launcherDefaults.enableAudio = true ∧
    inForce plainLineUtil ⟨"Sound".toList, "EnableAudio".toList, "1".toList⟩
      (writeConfigFile plainUtil launcherDefaults
        "[Sound]\n#EnableAudio = 1\nEnableAudio = 0\n".toList) =
      some "0".toList := by
  decide +kernel

end SmwRecomp.Config
