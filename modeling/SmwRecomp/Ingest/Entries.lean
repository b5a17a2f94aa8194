import SmwRecomp.Lib.Keyed
import SmwRecomp.Ingest.Configs
import Mathlib.Data.List.Nodup

/-!
# Entry points of the imported structure

`src/tools/ingest_smwdisx.py`: `classify_labels`, `pointer_table_targets`, the dispatch filter of
`main` and `emit_cfg`.

* `Symbol`, `Label` — a symbol of the symbol file, and the shape the source gives it.
* `classifyLabels`, `pointerTableTargets` — one label, and one target, for each address.
* `emitCfg`, `importStructure` — the blocks, and the run that writes them.
* `one_entry_per_address` — when no address is declared twice.
-/

set_option autoImplicit false

namespace SmwRecomp.Ingest

open Hooks

/-! ## Labels -/

/-- A line of the `[labels]` section. -/
structure Symbol where
  pc24 : Nat
  name : Str
  bounded : pc24 < 2 ^ 24
  word : Word name

structure Label where
  pc24 : Nat
  name : Str
  parent : Bool
  generated : Bool

/-- `GENERATED_LABEL_RE`. -/
def generatedLabel (name : Str) : Bool :=
  ["CODE_", "DATA_", "EDATA_", "ADDR_", "PTR_", "SUB_", "UNK_", "Return_"].any fun kind =>
    let digits := name.drop kind.toList.length
    decide (kind.toList <+: name) && digits.all isHex &&
      decide (4 ≤ digits.length ∧ digits.length ≤ 6)

/-- `rank(a) < rank(b)`: the tuples `(not parent, generated, len(name), name)`, field by field. -/
def Label.ranksBelow (a b : Label) : Bool :=
  (a.parent && !b.parent) || a.parent == b.parent &&
    ((!a.generated && b.generated) || a.generated == b.generated &&
      (decide (a.name.length < b.name.length) || decide (a.name.length = b.name.length) &&
        decide (a.name < b.name)))

/-- A symbol of the assembler's own. -/
def Symbol.isInternal (s : Symbol) : Bool := decide ([':'] <+: s.name)

/-- The loop body of `classify_labels`. -/
def choose (parentNames : List Str) (romSize : Nat) (chosen : List Label)
    (s : Symbol) : List Label :=
  let bank := bankOf s.pc24
  if s.isInternal then chosen
  else if pc16Of s.pc24 < 0x8000 ∨ romSize / 0x8000 ≤ bank &&& 0x7f ∨ bank = 0x7e ∨
    bank = 0x7f then chosen
  else
    let candidate : Label := ⟨s.pc24, s.name, parentNames.contains s.name, generatedLabel s.name⟩
    match findKey Label.pc24 s.pc24 chosen with
    | none => chosen ++ [candidate]
    | some current => if candidate.ranksBelow current then putKey Label.pc24 candidate chosen
        else chosen

def classifyLabels (symbols : List Symbol) (parentNames : List Str) (romSize : Nat) : List Label :=
  (symbols.foldl (choose parentNames romSize) []).mergeSort fun a b => decide (a.pc24 ≤ b.pc24)

/-! ## Pointer tables -/

/-- What the importer has read of the symbol file and of the source tree. -/
structure Disassembly where
  symbols : List Symbol
  parentNames : List Str
  /-- The identifiers in the operands of the data statements. -/
  operands : List Str
  kinds : AddressMap Kind
  archs : AddressMap String

instance (kinds : AddressMap Kind) (archs : AddressMap String) (pc24 : Nat) :
    Decidable (Is65816Code kinds archs pc24) :=
  inferInstanceAs (Decidable (_ ∧ _))

def ASAR_FUNCTIONS : List String :=
  ["snestopc", "pctosnes", "readfile1", "readfile2", "readfile3", "readfile4", "filesize",
    "canread", "stringsequal", "stringequal", "equal", "notequal", "less", "greater", "lessequal",
    "greaterequal", "and", "or", "nand", "nor", "xor",
    "not", "min", "max", "clamp", "safediv", "select", "sqrt", "sin", "cos", "tan", "log", "log2",
    "log10", "bank", "realbase", "con", "defined", "sizeof", "objectsize", "bitrev"]

/-- `label_addr.get(word)`: the last of two labels of one name stands. -/
def labelAddr (symbols : List Symbol) (word : Str) : Option Nat :=
  (symbols.reverse.find? fun s => !s.isInternal && decide (s.name = word)).map Symbol.pc24

/-- `targets[pc24] = word`. -/
def assign (targets : List Entry) (entry : Entry) : List Entry :=
  if (findKey Prod.fst entry.1 targets).isSome then putKey Prod.fst entry targets
    else targets ++ [entry]

/-- The inner loop of `pointer_table_targets`. -/
def addTarget (d : Disassembly) (targets : List Entry) (word : Str) : List Entry :=
  if ASAR_FUNCTIONS.any fun function =>
    decide (word.map Char.toLower = function.toList) then targets
  else match labelAddr d.symbols word with
    | none => targets
    | some pc24 => if Is65816Code d.kinds d.archs pc24 then assign targets (pc24, word) else targets

def pointerTableTargets (d : Disassembly) : List Entry := d.operands.foldl (addTarget d) []

/-! ## The block -/

/-- The `bank??.cfg` of a directory, sorted. -/
structure Configs where
  files : List ConfigFile
  sorted : files.Pairwise fun f g => f.bank < g.bank
  bounded : ∀ f ∈ files, f.bank < 0x100

/-- `f'{n:0{width}X}'`. -/
def hexField (width n : Nat) : Str := (hexDigits (n + 1) n []).leftpad width '0'

def regionLine (r : Region) : Str :=
  "data_region ".toList ++
    (hexField 2 r.key ++ (' ' :: (hexField 4 r.start ++ (' ' :: hexField 4 r.stop))))

def overlayHead : List String :=
  ["# Generated by tools/ingest_smwdisx.py from the pinned SMWDisX",
    "# disassembly (IsoFrieze), which assembles byte-identical to",
    "# this project's ROM. Do not hand-edit between the markers.",
    "",
    "# Every span that is not 65816 code: data statements, and the",
    "# SPC-700 sound driver, which is not this decoder's ISA."]

def orphanHead : List String :=
  ["",
    "# Banks with no cfg of their own. data_region is",
    "# bank-explicit and aggregated across every cfg, so",
    "# they live here."]

def dispatchHead : List String :=
  ["",
    "# Entry points named by a pointer table. A data_region",
    "# stops the framework's jump-table scan (decoder.py",
    "# _autorecover_*), so the tables above would otherwise",
    "# hide their own targets. The disassembly names them",
    "# outright, so they are declared instead of scanned for."]

def promotedHead : List String :=
  ["",
    "# Hand-named parent labels standing at 65816 code.",
    "# These promote to AOT entries."]

def symbolHead : List String :=
  ["",
    "# Every remaining label, naming only. `symbol` feeds the",
    "# emitter's name resolver without promoting anything, so",
    "# a discovered function still comes out carrying its",
    "# name."]

/-- A parent label a person named, at 65816 code. -/
def promotes (d : Disassembly) (label : Label) : Bool :=
  label.parent && !label.generated && decide (Is65816Code d.kinds d.archs label.pc24)

def nameLine (entry : Entry) : Str := entryLine "name".toList entry.1 entry.2

def symbolLine (label : Label) : Str := entryLine "symbol".toList label.pc24 label.name

/-- The entries of a bank. -/
def ofBank {α : Type} (key : α → Nat) (bank : Nat) (xs : List α) : List α := xs.filter fun x =>
    decide (bankOf (key x) = bank)

/-- `body`, without the two markers. -/
def body (d : Disassembly) (banks : List Nat) (labels : List Label) (regions : List Region)
    (targets : List Entry)
    (promoteNames : Bool) (bank : Nat) : List Str :=
  let own := (regions.filter fun r => decide (r.key = bank)).mergeSort tupleLe
  let orphans := (regions.filter fun r => decide (r.key ∉ banks)).mergeSort tupleLe
  let dispatched := ofBank Prod.fst bank (targets.mergeSort fun a b => decide (a.1 ≤ b.1))
  let labels := ofBank Label.pc24 bank labels
  overlayHead.map String.toList ++ own.map regionLine ++
    (if banks.head? = some bank ∧ orphans ≠ [] then orphanHead.map String.toList ++
      orphans.map regionLine else []) ++
    dispatchHead.map String.toList ++ dispatched.map nameLine ++
    (if promoteNames then
      promotedHead.map String.toList ++ (labels.filter (promotes d)).map fun label =>
        nameLine (label.pc24, label.name)
    else []) ++
    symbolHead.map String.toList ++
    (labels.filter fun label => decide (label.pc24 ∉ targets.map Prod.fst) &&
      !(promoteNames && promotes d label)).map symbolLine

/-- `"\n".join(body) + "\n"`. -/
def generated (lines : List Str) : Str :=
  ((BEGIN_MARK :: (lines ++ [END_MARK])).map (· ++ ['\n'])).flatten

/-- `emit_cfg`; `none` is its refusal of a directory without a configuration. -/
def emitCfg (configs : Configs) (d : Disassembly) (labels : List Label) (regions : List Region)
    (targets : List Entry)
    (promoteNames : Bool) : Option (List ConfigFile) :=
  let banks := configs.files.map ConfigFile.bank
  if banks = [] then none
  else some (configs.files.map fun f =>
    { f with text := splice (generated (body d banks labels regions targets promoteNames f.bank)) f.text })

/-! ## The run -/

/-- `unmapped_bank_regions`. -/
def unmappedBankRegions (kinds : AddressMap Kind) (romSize : Nat) : List Region :=
  ((List.range (romSize / 0x8000)).filter fun bank => decide (bank ∉ kinds.keys.map bankOf)).map
    fun bank => ⟨bank, 0x8000, 0x10000⟩

/-- `declared_entry_addresses`. -/
def declaredEntryAddresses (alnum : Char → Bool) (configs : Configs) : List Nat :=
  (configs.files.flatMap (ConfigFile.declared alnum)).map Prod.fst

/-- The targets `main` hands on: in a bank with labels, and not declared by hand. -/
def dispatchTargets (alnum : Char → Bool) (configs : Configs) (d : Disassembly)
    (labels : List Label) : List Entry :=
  (pointerTableTargets d).filter fun e =>
    decide (bankOf e.1 ∈ labels.map fun label => bankOf label.pc24) &&
      decide (e.1 ∉ declaredEntryAddresses alnum configs)

/-- `main`, from the checked disassembly on. -/
def importStructure (alnum : Char → Bool) (configs : Configs) (d : Disassembly) (romSize : Nat)
    (promoteNames : Bool) :
    Option (List ConfigFile) := do
  let nonCode ← nonCodeRegions d.kinds d.archs
  let regions := (nonCode ++ unmappedBankRegions d.kinds romSize).mergeSort tupleLe
  let labels := classifyLabels d.symbols d.parentNames romSize
  emitCfg configs d labels regions (dispatchTargets alnum configs d labels) promoteNames

/-- The addresses the files declare as entry points, one for each line that declares one. -/
def entryAddresses (alnum : Char → Bool) (files : List ConfigFile) : List Nat :=
  (files.flatMap (ConfigFile.entries alnum)).map Prod.fst

/-! ## One label, and one target, for each address -/

/-- Records with addresses of their own, and names that stand on a line. -/
structure Sound {α : Type} (key : α → Nat) (name : α → Str) (xs : List α) : Prop where
  nodup : (xs.map key).Nodup
  named : ∀ x ∈ xs, key x < 2 ^ 24 ∧ Word (name x)

section Sound

variable {α : Type} {key : α → Nat} {name : α → Str} {xs : List α} {x : α}

theorem Sound.nil : Sound key name [] := ⟨List.nodup_nil, by simp⟩

theorem Sound.snoc (h : Sound key name xs) (hx : key x < 2 ^ 24 ∧ Word (name x))
    (hnew : findKey key (key x) xs = none) :
    Sound key name (xs ++ [x]) := by
  have hfresh : key x ∉ xs.map key := by
    intro hmem
    obtain ⟨y, hy, hkey⟩ := List.mem_map.1 hmem
    exact findKey_eq_none.1 hnew y hy hkey
  constructor
  · rw [List.map_append, List.map_singleton]
    exact List.nodup_append.2 ⟨h.nodup, List.nodup_singleton _, fun a ha b hb => by
      rw [List.mem_singleton.1 hb]
      rintro rfl
      exact hfresh ha⟩
  · intro y hy
    rcases List.mem_append.1 hy with hy | hy
    · exact h.named y hy
    · rw [List.mem_singleton.1 hy]
      exact hx

theorem Sound.put {y : α} (h : Sound key name xs) (hx : key x < 2 ^ 24 ∧ Word (name x))
    (hold : findKey key (key x) xs = some y) : Sound key name (putKey key x xs) := by
  constructor
  · rw [map_putKey (findKey_some hold).2.symm hold]
    exact h.nodup
  · intro z hz
    rcases mem_putKey hz with rfl | hz
    · exact hx
    · exact h.named z hz

theorem Sound.perm {ys : List α} (h : Sound key name xs) (hperm : ys.Perm xs) : Sound key name ys :=
  ⟨(hperm.map key).nodup_iff.2 h.nodup, fun y hy => h.named y (hperm.mem_iff.1 hy)⟩

theorem Sound.filter (h : Sound key name xs) (p : α → Bool) : Sound key name (xs.filter p) :=
  ⟨h.nodup.sublist (List.filter_sublist.map key), fun x hx => h.named x (List.mem_filter.1 hx).1⟩

end Sound

theorem Sound.choose {chosen : List Label} (h : Sound Label.pc24 Label.name chosen)
    (parentNames : List Str) (romSize : Nat)
    (s : Symbol) : Sound Label.pc24 Label.name (choose parentNames romSize chosen s) := by
  unfold Ingest.choose
  extract_lets bank candidate
  have hcandidate : candidate.pc24 < 2 ^ 24 ∧ Word candidate.name := ⟨s.bounded, s.word⟩
  split
  · exact h
  · split
    · exact h
    · split
      · rename_i hnew
        exact h.snoc hcandidate hnew
      · rename_i current hold
        split
        · exact h.put hcandidate hold
        · exact h

theorem classifyLabels_sound (symbols : List Symbol) (parentNames : List Str) (romSize : Nat) :
    Sound Label.pc24 Label.name (classifyLabels symbols parentNames romSize) := by
  have hfold : ∀ (symbols : List Symbol) {chosen : List Label}, Sound Label.pc24 Label.name chosen →
      Sound Label.pc24 Label.name (symbols.foldl (choose parentNames romSize) chosen) := by
    intro symbols
    induction symbols with
    | nil => exact id
    | cons s symbols ih => exact fun h => ih (h.choose parentNames romSize s)
  exact (hfold symbols Sound.nil).perm (List.mergeSort_perm _ _)

theorem Sound.addTarget {targets : List Entry} (h : Sound Prod.fst Prod.snd targets)
    (d : Disassembly) (word : Str) :
    Sound Prod.fst Prod.snd (addTarget d targets word) := by
  unfold Ingest.addTarget
  split
  · exact h
  · split
    · exact h
    · rename_i pc24 hlabel
      obtain ⟨s, hs, rfl⟩ := Option.map_eq_some_iff.1 hlabel
      have hname : s.name = word := by
        have hfound := List.find?_some hs
        rw [Bool.and_eq_true, decide_eq_true_eq] at hfound
        exact hfound.2
      have hentry : s.pc24 < 2 ^ 24 ∧ Word word := ⟨s.bounded, hname ▸ s.word⟩
      split
      · unfold assign
        split
        · rename_i hsome
          obtain ⟨old, hold⟩ := Option.isSome_iff_exists.1 hsome
          exact h.put hentry hold
        · rename_i hnone
          exact h.snoc hentry (Option.not_isSome_iff_eq_none.1 hnone)
      · exact h

theorem pointerTableTargets_sound (d : Disassembly) :
    Sound Prod.fst Prod.snd (pointerTableTargets d) := by
  have hfold : ∀ (words : List Str) {targets : List Entry}, Sound Prod.fst Prod.snd targets →
      Sound Prod.fst Prod.snd (words.foldl (addTarget d) targets) := by
    intro words
    induction words with
    | nil => exact id
    | cons word words ih => exact fun h => ih (h.addTarget d word)
  exact hfold d.operands Sound.nil

/-! ## The lines of the block -/

section Block

variable {alnum : Char → Bool}

theorem Adds.none {lines : List Str} (h : ∀ l ∈ lines, Adds alnum [l] []) :
    Adds alnum lines [] := by
  induction lines with
  | nil => exact fun _ => ⟨rfl, rfl⟩
  | cons l lines ih =>
      rw [List.forall_mem_cons] at h
      exact h.1.append (ih h.2)

theorem adds_remarks {lines : List String}
    (h : (lines.all fun l => decide (Remark (l.toList ++ ['\n']))) = true) :
    Adds alnum ((lines.map String.toList).map (· ++ ['\n'])) [] := by
  refine Adds.none fun l hl => ?_
  rw [List.map_map] at hl
  obtain ⟨line, hline, rfl⟩ := List.mem_map.1 hl
  exact Remark.adds (of_decide_eq_true (List.all_eq_true.1 h line hline))

theorem adds_regions (regions : List Region) :
    Adds alnum ((regions.map regionLine).map (· ++ ['\n'])) [] := by
  refine Adds.none fun l hl => ?_
  rw [List.map_map] at hl
  obtain ⟨r, -, rfl⟩ := List.mem_map.1 hl
  obtain ⟨v, hv⟩ := strip_cons (c := 'd') (by decide) ("ata_region ".toList ++
    (hexField 2 r.key ++ (' ' :: (hexField 4 r.start ++ (' ' :: hexField 4 r.stop)))) ++ ['\n'])
  exact adds_other hv (by decide) (by decide) (by decide) (by decide)

theorem adds_symbols (labels : List Label) :
    Adds alnum ((labels.map symbolLine).map (· ++ ['\n'])) [] := by
  refine Adds.none fun l hl => ?_
  rw [List.map_map] at hl
  obtain ⟨label, -, rfl⟩ := List.mem_map.1 hl
  obtain ⟨v, hv⟩ := strip_cons (c := 's') (by decide) ("ymbol".toList ++
    (' ' :: (hex6 label.pc24 ++ (' ' :: label.name))) ++ ['\n'])
  exact adds_other hv (by decide) (by decide) (by decide) (by decide)

variable (alnum) in
theorem adds_names {α : Type} {key : α → Nat} {name : α → Str} {xs : List α}
    (h : Sound key name xs) :
    Adds alnum ((xs.map fun x => nameLine (key x, name x)).map (· ++ ['\n']))
      (xs.map fun x => (key x, name x)) := by
  have hall : Adds alnum (xs.map fun x => nameLine (key x, name x) ++ ['\n'])
    (xs.flatMap fun x => [(key x, name x)]) :=
    Adds.flatMap fun x hx => adds_name (h.named x hx).1 (h.named x hx).2
  rw [← List.map_eq_flatMap] at hall
  rwa [List.map_map]

variable {d : Disassembly} {labels : List Label} {targets : List Entry}

/-- What the block of a bank declares. -/
def blockEntries (d : Disassembly) (labels : List Label) (targets : List Entry)
    (promoteNames : Bool) (bank : Nat) : List Entry :=
  ofBank Prod.fst bank (targets.mergeSort fun a b => decide (a.1 ≤ b.1)) ++
    if promoteNames then ((ofBank Label.pc24 bank labels).filter (promotes d)).map fun label =>
      (label.pc24, label.name) else []

theorem adds_body (hlabels : Sound Label.pc24 Label.name labels)
    (htargets : Sound Prod.fst Prod.snd targets)
    (banks : List Nat) (regions : List Region) (promoteNames : Bool) (bank : Nat) :
    Adds alnum ((body d banks labels regions targets promoteNames bank).map (· ++ ['\n']))
      (blockEntries d labels targets promoteNames bank) := by
  have hdispatched :=
    adds_names alnum
    ((htargets.perm (List.mergeSort_perm targets fun a b => decide (a.1 ≤ b.1))).filter
    fun e => decide (bankOf e.1 = bank))
  have hpromoted :=
    adds_names alnum ((hlabels.filter fun l => decide (bankOf l.pc24 = bank)).filter (promotes d))
  have hoverlay : Adds alnum ((overlayHead.map String.toList).map (· ++ ['\n'])) [] :=
    adds_remarks (by decide)
  have horphan : Adds alnum ((orphanHead.map String.toList).map (· ++ ['\n'])) [] :=
    adds_remarks (by decide)
  have hdispatch : Adds alnum ((dispatchHead.map String.toList).map (· ++ ['\n'])) [] :=
    adds_remarks (by decide)
  have hpromote : Adds alnum ((promotedHead.map String.toList).map (· ++ ['\n'])) [] :=
    adds_remarks (by decide)
  have hsymbol : Adds alnum ((symbolHead.map String.toList).map (· ++ ['\n'])) [] :=
    adds_remarks (by decide)
  have horphans : ∀ orphans : List Region,
    Adds alnum ((if banks.head? = some bank ∧ orphans ≠ [] then
      orphanHead.map String.toList ++ orphans.map regionLine else []).map (· ++ ['\n'])) [] := by
    intro orphans
    split
    · rw [List.map_append]
      exact horphan.append (adds_regions orphans)
    · exact fun _ => ⟨rfl, rfl⟩
  have hnames : Adds alnum ((if promoteNames then promotedHead.map String.toList ++
      ((ofBank Label.pc24 bank labels).filter (promotes d)).map fun label =>
      nameLine (label.pc24, label.name) else []).map (· ++ ['\n']))
      (if promoteNames then ((ofBank Label.pc24 bank labels).filter (promotes d)).map fun label =>
        (label.pc24, label.name) else []) := by
    split
    · rw [List.map_append]
      exact hpromote.append hpromoted
    · exact fun _ => ⟨rfl, rfl⟩
  have hfound : blockEntries d labels targets promoteNames bank = [] ++ [] ++ [] ++ [] ++
      (ofBank Prod.fst bank (targets.mergeSort fun a b => decide (a.1 ≤ b.1))).map
        (fun e => (e.1, e.2)) ++
      (if promoteNames then ((ofBank Label.pc24 bank labels).filter (promotes d)).map fun label =>
        (label.pc24, label.name) else []) ++
      [] ++ [] := by
    simp [blockEntries]
  unfold body
  simp only [List.map_append]
  rw [hfound]
  exact ((((((hoverlay.append (adds_regions _)).append (horphans _)).append hdispatch).append
    hdispatched).append
    hnames).append hsymbol).append (adds_symbols _)

theorem proper_line {l : Str} (h : ∀ c ∈ l, isLineBreak c = false) :
    Proper (l ++ ['\n']) := ⟨l, rfl, h⟩

theorem digits_unbroken : ∀ c ∈ "0123456789ABCDEF".toList, isLineBreak c = false := by
  decide +kernel

theorem entryLine_unbroken {directive name : Str}
    (hdirective : ∀ c ∈ directive, isLineBreak c = false) (hname : Word name) (pc24 : Nat) :
    ∀ c ∈ entryLine directive pc24 name, isLineBreak c = false := by
  have hword : ∀ c ∈ name, isLineBreak c = false := by
    intro c hc
    by_contra hbreak
    rw [Bool.not_eq_false] at hbreak
    have hspace := isSpace_of_isLineBreak hbreak
    rw [hname.2 c hc] at hspace
    cases hspace
  have hspace : isLineBreak ' ' = false := by decide
  unfold entryLine
  rw [List.forall_mem_append, List.forall_mem_cons, List.forall_mem_append, List.forall_mem_cons]
  exact ⟨hdirective, hspace, fun c hc => digits_unbroken c (hex6_mem pc24 c hc), hspace, hword⟩

theorem hexField_unbroken (width n : Nat) : ∀ c ∈ hexField width n, isLineBreak c = false :=
  fun c hc => digits_unbroken c (hexPad_mem width n c hc)

theorem regionLine_unbroken (r : Region) : ∀ c ∈ regionLine r, isLineBreak c = false := by
  have hhead : ∀ c ∈ "data_region ".toList, isLineBreak c = false := by decide +kernel
  have hspace : isLineBreak ' ' = false := by decide
  unfold regionLine
  rw [List.forall_mem_append, List.forall_mem_append, List.forall_mem_cons, List.forall_mem_append,
    List.forall_mem_cons]
  exact ⟨hhead, hexField_unbroken 2 _, hspace, hexField_unbroken 4 _, hspace, hexField_unbroken 4 _⟩

theorem body_proper (hlabels : Sound Label.pc24 Label.name labels)
    (htargets : Sound Prod.fst Prod.snd targets)
    (banks : List Nat) (regions : List Region) (promoteNames : Bool) (bank : Nat) :
    ∀ l ∈ (body d banks labels regions targets promoteNames bank).map (· ++ ['\n']), Proper l := by
  have hremarks : ∀ {lines : List String},
    (lines.all fun l => l.toList.all fun c => !isLineBreak c) = true →
      ∀ l ∈ lines.map String.toList, ∀ c ∈ l, isLineBreak c = false := by
    intro lines h l hl c hc
    obtain ⟨line, hline, rfl⟩ := List.mem_map.1 hl
    have hall := List.all_eq_true.1 (List.all_eq_true.1 h line hline) c hc
    rwa [Bool.not_eq_true'] at hall
  have hregions : ∀ (regions : List Region), ∀ l ∈ regions.map regionLine, ∀ c ∈ l,
    isLineBreak c = false := by
    intro regions l hl
    obtain ⟨r, -, rfl⟩ := List.mem_map.1 hl
    exact regionLine_unbroken r
  intro l hl
  obtain ⟨u, hu, rfl⟩ := List.mem_map.1 hl
  refine proper_line ?_
  unfold body at hu
  simp only [List.mem_append] at hu
  rcases hu with ((((((hu | hu) | hu) | hu) | hu) | hu) | hu) | hu
  · exact hremarks (by decide +kernel) u hu
  · exact hregions _ u hu
  · split at hu
    · rcases List.mem_append.1 hu with hu | hu
      · exact hremarks (by decide +kernel) u hu
      · exact hregions _ u hu
    · cases hu
  · exact hremarks (by decide +kernel) u hu
  · obtain ⟨e, he, rfl⟩ := List.mem_map.1 hu
    have he := List.mem_mergeSort.1 (List.mem_filter.1 he).1
    exact entryLine_unbroken (by decide) (htargets.named e he).2 e.1
  · split at hu
    · rcases List.mem_append.1 hu with hu | hu
      · exact hremarks (by decide +kernel) u hu
      · obtain ⟨label, hlabel, rfl⟩ := List.mem_map.1 hu
        have hlabel := (List.mem_filter.1 (List.mem_filter.1 hlabel).1).1
        exact entryLine_unbroken (by decide) (hlabels.named label hlabel).2 label.pc24
    · cases hu
  · exact hremarks (by decide +kernel) u hu
  · obtain ⟨label, hlabel, rfl⟩ := List.mem_map.1 hu
    have hlabel := (List.mem_filter.1 (List.mem_filter.1 hlabel).1).1
    exact entryLine_unbroken (by decide) (hlabels.named label hlabel).2 label.pc24

theorem generated_eq (lines : List Str) :
    generated lines = BEGIN_MARK ++ '\n' ::
      ((lines.map (· ++ ['\n'])).flatten ++ (END_MARK ++ ['\n'])) := by
  simp [generated]

/-- The entries of a file after the run. -/
theorem entries_emitted (hlabels : Sound Label.pc24 Label.name labels)
    (htargets : Sound Prod.fst Prod.snd targets)
    (banks : List Nat) (regions : List Region) (promoteNames : Bool) (f : ConfigFile) :
    (ConfigFile.entries alnum { f with
      text := splice (generated (body d banks labels regions targets promoteNames f.bank))
        f.text }).Perm
      (f.kept alnum ++ blockEntries d labels targets promoteNames f.bank) := by
  rw [generated_eq]
  exact entries_splice (body_proper hlabels htargets banks regions promoteNames f.bank)
    (adds_body hlabels htargets banks regions promoteNames f.bank)

end Block

/-! ## One entry for each address -/

/-- Over all banks, a record with an address of its own is taken once. -/
theorem count_ofBank {α : Type} {key : α → Nat} {xs : List α} (hkeys : (xs.map key).Nodup)
    {banks : List Nat}
    (hbanks : banks.Nodup) (pc24 : Nat) :
    ((banks.flatMap fun bank => ofBank key bank xs).map key).count pc24 =
      if pc24 ∈ xs.map key ∧ bankOf pc24 ∈ banks then 1 else 0 := by
  have hmem : pc24 ∈ (banks.flatMap fun bank => ofBank key bank xs).map key ↔ pc24 ∈ xs.map key ∧
    bankOf pc24 ∈ banks := by
    simp only [List.mem_map, List.mem_flatMap, ofBank, List.mem_filter, decide_eq_true_eq]
    constructor
    · rintro ⟨x, ⟨bank, hbank, hx, hkey⟩, rfl⟩
      exact ⟨⟨x, hx, rfl⟩, hkey ▸ hbank⟩
    · rintro ⟨⟨x, hx, rfl⟩, hbank⟩
      exact ⟨x, ⟨_, hbank, hx, rfl⟩, rfl⟩
  have hnodup : ((banks.flatMap fun bank => ofBank key bank xs).map key).Nodup := by
    rw [List.map_flatMap, List.nodup_flatMap]
    refine ⟨fun bank _ => hkeys.sublist (List.filter_sublist.map key),
      hbanks.imp fun {a b} hne => ?_⟩
    refine List.disjoint_left.2 fun {pc24} ha hb => ?_
    obtain ⟨x, hx, rfl⟩ := List.mem_map.1 ha
    obtain ⟨y, hy, hsame⟩ := List.mem_map.1 hb
    have hx := of_decide_eq_true (List.mem_filter.1 hx).2
    have hy := of_decide_eq_true (List.mem_filter.1 hy).2
    exact hne (hx.symm.trans ((congrArg bankOf hsame).symm.trans hy))
  rw [List.Nodup.count hnodup]
  exact if_congr hmem rfl rfl

/-- The addresses of the entries that stay around the blocks. -/
def keptAddresses (alnum : Char → Bool) (configs : Configs) : List Nat :=
  (configs.files.flatMap (ConfigFile.kept alnum)).map Prod.fst

/-- The addresses of the pointer-table targets, in banks with a label and a configuration. -/
def projectTargets (configs : Configs) (d : Disassembly) (labels : List Label) : List Nat :=
  ((pointerTableTargets d).map Prod.fst).filter fun pc24 =>
    decide (bankOf pc24 ∈ labels.map fun label => bankOf label.pc24) &&
      decide (bankOf pc24 ∈ configs.files.map ConfigFile.bank)

/-- The addresses of the labels that promotion names, in banks with a configuration. -/
def promotedAddresses (configs : Configs) (d : Disassembly) (labels : List Label) : List Nat :=
  ((labels.filter (promotes d)).map Label.pc24).filter fun pc24 =>
    decide (bankOf pc24 ∈ configs.files.map ConfigFile.bank)

theorem Configs.banks_nodup (configs : Configs) : (configs.files.map ConfigFile.bank).Nodup :=
  List.pairwise_map.2 (configs.sorted.imp Nat.ne_of_lt)

/-- How often an address is declared in the files of a run. -/
theorem emitCfg_count {alnum : Char → Bool} {configs : Configs} {d : Disassembly}
    {labels : List Label} {targets : List Entry}
    {out : List ConfigFile} (hlabels : Sound Label.pc24 Label.name labels)
    (htargets : Sound Prod.fst Prod.snd targets)
    {regions : List Region} {promoteNames : Bool}
    (hout : emitCfg configs d labels regions targets promoteNames = some out)
    (pc24 : Nat) :
    (entryAddresses alnum out).count pc24 = (keptAddresses alnum configs).count pc24 +
      ((if pc24 ∈ targets.map Prod.fst ∧ bankOf pc24 ∈ configs.files.map ConfigFile.bank
        then 1 else 0) +
        if promoteNames = true ∧ pc24 ∈ promotedAddresses configs d labels then 1 else 0) := by
  have hdispatched : (((configs.files.map ConfigFile.bank).flatMap fun bank =>
      ofBank Prod.fst bank (targets.mergeSort fun a b => decide (a.1 ≤ b.1))).map Prod.fst).count
        pc24 =
      if pc24 ∈ targets.map Prod.fst ∧ bankOf pc24 ∈ configs.files.map ConfigFile.bank
        then 1 else 0 := by
    have hsorted := List.mergeSort_perm targets fun a b => decide (a.1 ≤ b.1)
    rw [count_ofBank (htargets.perm hsorted).nodup configs.banks_nodup]
    exact if_congr (and_congr_left' (hsorted.map Prod.fst).mem_iff) rfl rfl
  have hpromoted : (((configs.files.map ConfigFile.bank).flatMap fun bank => if promoteNames then
      ((ofBank Label.pc24 bank labels).filter (promotes d)).map fun label =>
        (label.pc24, label.name) else []).map Prod.fst).count
      pc24 = if promoteNames = true ∧ pc24 ∈ promotedAddresses configs d labels then 1 else 0 := by
    cases promoteNames with
    | false =>
        have hnone : ((configs.files.map ConfigFile.bank).flatMap fun _ => ([] : List Entry)) =
          [] :=
          List.flatMap_eq_nil_iff.2 fun _ _ => rfl
        simp [hnone]
    | true =>
        have hkeys : (((configs.files.map ConfigFile.bank).flatMap fun bank =>
            ((ofBank Label.pc24 bank labels).filter (promotes d)).map fun label =>
              (label.pc24, label.name)).map Prod.fst) =
            ((configs.files.map ConfigFile.bank).flatMap fun bank =>
              ofBank Label.pc24 bank (labels.filter (promotes d))).map
              Label.pc24 := by
          rw [List.map_flatMap, List.map_flatMap]
          refine List.flatMap_congr fun bank _ => ?_
          rw [List.map_map, ofBank, ofBank, List.filter_comm]
          rfl
        simp only [if_true, hkeys,
          count_ofBank (hlabels.filter (promotes d)).nodup configs.banks_nodup]
        refine if_congr ?_ rfl rfl
        rw [promotedAddresses, List.mem_filter, decide_eq_true_eq]
        exact (and_iff_right trivial).symm
  unfold emitCfg at hout
  extract_lets banks at hout
  split at hout
  · cases hout
  obtain rfl := Option.some.inj hout
  have hfiles : ((configs.files.map fun f => { f with
        text := splice (generated (body d banks labels regions targets promoteNames f.bank))
          f.text }).flatMap
        (ConfigFile.entries alnum)).Perm
      (configs.files.flatMap (ConfigFile.kept alnum) ++
        (banks.flatMap (blockEntries d labels targets promoteNames))) := by
    rw [List.flatMap_map, List.flatMap_map]
    refine (List.Perm.flatMap_left _ fun f _ =>
      entries_emitted hlabels htargets banks regions promoteNames f).trans ?_
    exact (List.flatMap_append_perm _ _ _).symm
  have hblocks : (banks.flatMap (blockEntries d labels targets promoteNames)).Perm
      ((banks.flatMap fun bank =>
        ofBank Prod.fst bank (targets.mergeSort fun a b => decide (a.1 ≤ b.1))) ++
        banks.flatMap fun bank => if promoteNames then
          ((ofBank Label.pc24 bank labels).filter (promotes d)).map fun label =>
            (label.pc24, label.name) else []) :=
    (List.flatMap_append_perm _ _ _).symm
  unfold entryAddresses keptAddresses
  rw [((hfiles.trans (hblocks.append_left _)).map Prod.fst).count_eq, List.map_append,
    List.map_append, List.count_append, List.count_append, hdispatched, hpromoted]

theorem importStructure_eq {alnum : Char → Bool} {configs : Configs} {d : Disassembly}
    {romSize : Nat} {promoteNames : Bool}
    {nonCode : List Region} (h : nonCodeRegions d.kinds d.archs = some nonCode) :
    importStructure alnum configs d romSize promoteNames =
      emitCfg configs d (classifyLabels d.symbols d.parentNames romSize)
        ((nonCode ++ unmappedBankRegions d.kinds romSize).mergeSort tupleLe)
        (dispatchTargets alnum configs d (classifyLabels d.symbols d.parentNames romSize))
          promoteNames := by
  unfold importStructure
  rw [h]
  rfl

/-- Only a directory without a configuration is refused. -/
theorem emitCfg_eq_none {configs : Configs} {d : Disassembly} {labels : List Label}
    {regions : List Region}
    {targets : List Entry} {promoteNames : Bool} :
    emitCfg configs d labels regions targets promoteNames = none ↔ configs.files = [] := by
  unfold emitCfg
  extract_lets banks
  have hbanks : banks = [] ↔ configs.files = [] := List.map_eq_nil_iff
  split
  · exact iff_of_true rfl (hbanks.1 ‹_›)
  · exact iff_of_false (by simp) fun h => ‹¬ banks = []› (hbanks.2 h)

/-- The targets that a run declares are those of the project that no file declares. -/
theorem mem_dispatchTargets {alnum : Char → Bool} {configs : Configs} {d : Disassembly}
    {labels : List Label} {pc24 : Nat} :
    (pc24 ∈ (dispatchTargets alnum configs d labels).map Prod.fst ∧
      bankOf pc24 ∈ configs.files.map ConfigFile.bank) ↔
    pc24 ∈ projectTargets configs d labels ∧ pc24 ∉ declaredEntryAddresses alnum configs := by
  simp only [dispatchTargets, projectTargets, List.mem_filter, List.mem_map, Bool.and_eq_true,
    decide_eq_true_eq]
  constructor
  · rintro ⟨⟨e, ⟨he, hbank, hnew⟩, rfl⟩, hconfig⟩
    exact ⟨⟨⟨e, he, rfl⟩, hbank, hconfig⟩, hnew⟩
  · rintro ⟨⟨⟨e, he, rfl⟩, hbank, hconfig⟩, hnew⟩
    exact ⟨⟨e, ⟨he, hbank, hnew⟩, rfl⟩, hconfig⟩

/-- An address stands once at most: kept, as a target not yet declared, or promoted. -/
theorem entries_le_one {kept : Nat} {target declared promoted : Prop} [Decidable target]
    [Decidable declared] [Decidable promoted] :
    kept + ((if target ∧ ¬ declared then 1 else 0) + if promoted then 1 else 0) ≤ 1 ↔
      kept ≤ 1 ∧ (0 < kept → target → declared) ∧
        (promoted → ¬ 0 < kept ∧ (target → declared)) := by
  by_cases hnew : target ∧ ¬ declared
  · have hno : ¬ (target → declared) := fun h => hnew.2 (h hnew.1)
    rw [if_pos hnew]
    by_cases hpromoted : promoted
    · rw [if_pos hpromoted]
      exact iff_of_false (by omega) fun h => hno (h.2.2 hpromoted).2
    · rw [if_neg hpromoted]
      constructor
      · exact fun h => ⟨by omega, fun hk => by omega, fun hp => absurd hp hpromoted⟩
      · intro h
        have hzero : ¬ 0 < kept := fun hk => hno (h.2.1 hk)
        omega
  · have htarget : target → declared := fun h => not_not.1 fun hno => hnew ⟨h, hno⟩
    rw [if_neg hnew]
    by_cases hpromoted : promoted
    · rw [if_pos hpromoted]
      constructor
      · exact fun h => ⟨by omega, fun _ => htarget, fun _ => ⟨by omega, htarget⟩⟩
      · intro h
        have hfree := (h.2.2 hpromoted).1
        omega
    · rw [if_neg hpromoted]
      exact ⟨fun h => ⟨h, fun _ => htarget, fun hp => absurd hp hpromoted⟩, fun h => h.1⟩

/-- No 24-bit address is declared twice in the files of any run just if the lines around the blocks
declare none twice, a pointer-table target stands there as a declared one only, and, under
promotion, no promoted label stands at an address of those lines, nor at a target that is not
declared. -/
theorem one_entry_per_address (alnum : Char → Bool) (configs : Configs) (d : Disassembly)
    (romSize : Nat) (promoteNames : Bool) :
    (∀ out, importStructure alnum configs d romSize promoteNames = some out →
      ∀ pc24 < 2 ^ 24, (entryAddresses alnum out).count pc24 ≤ 1) ↔
    ∀ pc24 < 2 ^ 24,
      (keptAddresses alnum configs).count pc24 ≤ 1 ∧
      (pc24 ∈ keptAddresses alnum configs →
        pc24 ∈ projectTargets configs d (classifyLabels d.symbols d.parentNames romSize) →
        pc24 ∈ declaredEntryAddresses alnum configs) ∧
      (promoteNames = true →
        pc24 ∈ promotedAddresses configs d (classifyLabels d.symbols d.parentNames romSize) →
        pc24 ∉ keptAddresses alnum configs ∧
        (pc24 ∈ projectTargets configs d (classifyLabels d.symbols d.parentNames romSize) →
          pc24 ∈ declaredEntryAddresses alnum configs)) := by
  let labels := classifyLabels d.symbols d.parentNames romSize
  have hlabels : Sound Label.pc24 Label.name labels :=
    classifyLabels_sound d.symbols d.parentNames romSize
  have htargets : Sound Prod.fst Prod.snd (dispatchTargets alnum configs d labels) :=
    (pointerTableTargets_sound d).filter _
  obtain ⟨nonCode, hnonCode⟩ := nonCodeRegions_some d.kinds d.archs
  rw [importStructure_eq hnonCode]
  cases hout : emitCfg configs d labels
    ((nonCode ++ unmappedBankRegions d.kinds romSize).mergeSort tupleLe)
      (dispatchTargets alnum configs d labels) promoteNames with
  | none =>
      -- The run is refused: there is no file, and so nothing that could be declared.
      have hnil := emitCfg_eq_none.1 hout
      refine iff_of_true (fun out h => by cases h) fun pc24 _ => ⟨?_, ?_, ?_⟩
      · simp [keptAddresses, hnil]
      · simp [keptAddresses, hnil]
      · simp [promotedAddresses, hnil]
  | some out =>
      have hpoint : ∀ pc24, (entryAddresses alnum out).count pc24 ≤ 1 ↔
        (keptAddresses alnum configs).count pc24 ≤ 1 ∧
          (pc24 ∈ keptAddresses alnum configs → pc24 ∈ projectTargets configs d labels →
            pc24 ∈ declaredEntryAddresses alnum configs) ∧
          (promoteNames = true → pc24 ∈ promotedAddresses configs d labels →
            pc24 ∉ keptAddresses alnum configs ∧
            (pc24 ∈ projectTargets configs d labels →
              pc24 ∈ declaredEntryAddresses alnum configs)) := by
        intro pc24
        have hkept := List.count_pos_iff (a := pc24) (l := keptAddresses alnum configs)
        rw [emitCfg_count hlabels htargets hout, if_congr mem_dispatchTargets rfl rfl,
          entries_le_one, hkept, and_imp]
      constructor
      · exact fun h pc24 hpc24 => (hpoint pc24).1 (h out rfl pc24 hpc24)
      · rintro h _ ⟨⟩ pc24 hpc24
        exact (hpoint pc24).2 (h pc24 hpc24)

/-- A hand-named routine at `$008000`, and a table at `$008001` that names it. -/
def tableOfFoo : Disassembly where
  symbols := [⟨0x8000, "Foo".toList, by decide, by decide⟩]
  parentNames := ["Foo".toList]
  operands := ["Foo".toList]
  kinds := ⟨[(0x8000, .code), (0x8001, .data)], by decide, by decide⟩
  archs := ⟨[(0x8000, "65816"), (0x8001, "65816")], by decide, by decide⟩

/-- One configuration, and nothing declared in it. -/
def emptyBank : Configs where
  files := [⟨0, "bank = 00\n".toList⟩]
  sorted := by decide
  bounded := by decide

/-- The pointer table declares `Foo`, and promotion declares it again. -/
theorem foo_declared_twice :
    ∃ out, importStructure (fun _ => false) emptyBank tableOfFoo 0x80000 true = some out ∧
    (entryAddresses (fun _ => false) out).count 0x8000 = 2 := by
  have hlabels : classifyLabels tableOfFoo.symbols tableOfFoo.parentNames 0x80000 =
    [⟨0x8000, "Foo".toList, true, false⟩] := by
    have hchosen : tableOfFoo.symbols.foldl (choose tableOfFoo.parentNames 0x80000) [] =
      [⟨0x8000, "Foo".toList, true, false⟩] := rfl
    unfold classifyLabels
    rw [hchosen, List.mergeSort_singleton]
  have htargets : dispatchTargets (fun _ => false) emptyBank tableOfFoo
    [⟨0x8000, "Foo".toList, true, false⟩] =
      [(0x8000, "Foo".toList)] := by decide +kernel
  have hkept : keptAddresses (fun _ => false) emptyBank = [] := by decide +kernel
  have hpromoted : promotedAddresses emptyBank tableOfFoo [⟨0x8000, "Foo".toList, true, false⟩] =
    [0x8000] := by decide +kernel
  obtain ⟨nonCode, hnonCode⟩ := nonCodeRegions_some tableOfFoo.kinds tableOfFoo.archs
  cases hout : emitCfg emptyBank tableOfFoo [⟨0x8000, "Foo".toList, true, false⟩]
      ((nonCode ++ unmappedBankRegions tableOfFoo.kinds 0x80000).mergeSort tupleLe)
        [(0x8000, "Foo".toList)] true with
  | none => exact absurd (emitCfg_eq_none.1 hout) (by decide)
  | some out =>
      have hsound : Sound Label.pc24 Label.name [⟨0x8000, "Foo".toList, true, false⟩] :=
        ⟨by decide, by decide⟩
      have hentry : Sound Prod.fst Prod.snd [(0x8000, "Foo".toList)] := ⟨by decide, by decide⟩
      refine ⟨out, ?_, ?_⟩
      · rw [importStructure_eq hnonCode, hlabels, htargets, hout]
      · rw [emitCfg_count hsound hentry hout, hkept, hpromoted]
        rfl

end SmwRecomp.Ingest
