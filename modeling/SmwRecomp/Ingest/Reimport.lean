import SmwRecomp.Ingest.Entries

/-!
# Importing again

`src/tools/ingest_smwdisx.py`: `emit_cfg` over its own output, and over the output of an import of
another disassembly.

* `Surrounded` — the hand-written lines in front of a file's block, and those behind it.
* `body_inner` — no line of a block ends it.
* `Rewrites` — a file whose block alone was written; `emitted_rewrites`.
* `import_replaces` — an import is forgotten by the next one.
-/

set_option autoImplicit false

namespace SmwRecomp.Ingest

open Hooks

variable {alnum : Char → Bool}

/-! ## Hand-written lines -/

/-- The lines that stay in front of the block, and those behind it. -/
structure Surrounded (text : Str) (front back : List Str) : Prop where
  lead : ∀ l ∈ front, Plain l
  trail : ∀ l ∈ back, Plain l
  eq : surroundings text = (front.flatten, back.flatten)

theorem plain_blank : Plain ['\n'] where
  proper := by decide
  noBegin := by decide
  noEnd := by decide
  apartBegin := by decide
  apartEnd := by decide

theorem HandWritten.surrounded {text : Str} (h : HandWritten text) :
    ∃ front back, Surrounded text front back := by
  cases h with
  | @plain lines hplain =>
      obtain ⟨ls, hls, -, hfrom, -⟩ := rstrip_entries (fun _ => false) fun l hl =>
        (hplain l hl).proper
      refine ⟨ls ++ [['\n']], [], ?_, by simp, ?_⟩
      · rw [List.forall_mem_append, List.forall_mem_singleton]
        refine ⟨fun l hl => ?_, plain_blank⟩
        rcases hfrom l hl with hkept | rfl
        · exact hplain l hkept
        · exact plain_blank
      · rw [surroundings_plain hplain, List.flatten_append, ← hls]
        simp
  | block hfront hinner hback => exact ⟨_, _, hfront, hback, surroundings_block hfront hinner⟩

/-! ## The lines of the block -/

section Block

variable {d : Disassembly} {labels : List Label} {targets : List Entry}

/-- A line of a block is a remark of the importer, a region, a `name` or a `symbol`. -/
theorem forall_mem_body {P : Str → Prop} (hlabels : Sound Label.pc24 Label.name labels)
    (htargets : Sound Prod.fst Prod.snd targets)
    (hremark : ∀ head ∈ [overlayHead, orphanHead, dispatchHead, promotedHead, symbolHead],
      ∀ l ∈ head, P l.toList)
    (hregion : ∀ r, P (regionLine r))
    (hname : ∀ pc24 name, Word name → P (entryLine "name".toList pc24 name))
    (hsymbol : ∀ pc24 name, Word name → P (entryLine "symbol".toList pc24 name))
    (banks : List Nat) (regions : List Region) (promoteNames : Bool) (bank : Nat) :
    ∀ l ∈ body d banks labels regions targets promoteNames bank, P l := by
  have hremarks : ∀ head ∈ [overlayHead, orphanHead, dispatchHead, promotedHead, symbolHead],
      ∀ l ∈ head.map String.toList, P l := by
    intro head hhead l hl
    obtain ⟨line, hline, rfl⟩ := List.mem_map.1 hl
    exact hremark head hhead line hline
  have hregions : ∀ (regions : List Region), ∀ l ∈ regions.map regionLine, P l := by
    intro regions l hl
    obtain ⟨r, -, rfl⟩ := List.mem_map.1 hl
    exact hregion r
  have hword : ∀ label ∈ ofBank Label.pc24 bank labels, Word label.name :=
    fun label hlabel => (hlabels.named label (List.mem_filter.1 hlabel).1).2
  unfold body
  simp only [List.forall_mem_append]
  refine ⟨⟨⟨⟨⟨⟨⟨hremarks _ (by simp), hregions _⟩, ?_⟩, hremarks _ (by simp)⟩, ?_⟩, ?_⟩,
    hremarks _ (by simp)⟩, ?_⟩
  · split
    · exact List.forall_mem_append.2 ⟨hremarks _ (by simp), hregions _⟩
    · simp
  · intro l hl
    obtain ⟨e, he, rfl⟩ := List.mem_map.1 hl
    exact hname _ _ (htargets.named e (List.mem_mergeSort.1 (List.mem_filter.1 he).1)).2
  · split
    · refine List.forall_mem_append.2 ⟨hremarks _ (by simp), fun l hl => ?_⟩
      obtain ⟨label, hlabel, rfl⟩ := List.mem_map.1 hl
      exact hname _ _ (hword label (List.mem_filter.1 hlabel).1)
    · simp
  · intro l hl
    obtain ⟨label, hlabel, rfl⟩ := List.mem_map.1 hl
    exact hsymbol _ _ (hword label (List.mem_filter.1 hlabel).1)

/-- The mark has more spaces in it than an entry. -/
theorem end_apart_entryLine {directive name : Str} (hdirective : ' ' ∉ directive)
    (hname : Word name) (pc24 : Nat) :
    ¬ END_MARK <:+: entryLine directive pc24 name ++ ['\n'] := by
  intro hin
  have hcount := hin.sublist.count_le ' '
  have hspaces : END_MARK.count ' ' = 4 := by decide
  have hdigits : (hex6 pc24).count ' ' = 0 := List.count_eq_zero.2 fun hspace =>
    absurd (hex6_mem pc24 ' ' hspace) (by decide)
  have hword : name.count ' ' = 0 := List.count_eq_zero.2 fun hspace =>
    absurd (hname.2 ' ' hspace) (by decide)
  have hblank : List.count ' ' ['\n'] = 0 := by decide
  have htwo : (entryLine directive pc24 name ++ ['\n']).count ' ' = 2 := by
    rw [entryLine, List.count_append, List.count_append, List.count_cons_self, List.count_append,
      List.count_cons_self, List.count_eq_zero.2 hdirective, hdigits, hword, hblank]
  omega

theorem end_apart_regionLine (r : Region) : ¬ END_MARK <:+: regionLine r ++ ['\n'] := by
  have hhead : ∀ c ∈ "data_region ".toList, c ≠ '#' := by decide
  have hdigits : ∀ c ∈ "0123456789ABCDEF".toList, c ≠ '#' := by decide
  have hfield : ∀ width n, ∀ c ∈ hexField width n, c ≠ '#' := fun width n c hc =>
    hdigits c (hexPad_mem width n c hc)
  have hspace : ' ' ≠ '#' := by decide
  have hline : ∀ c ∈ regionLine r ++ ['\n'], c ≠ '#' := by
    unfold regionLine
    rw [List.forall_mem_append, List.forall_mem_append, List.forall_mem_append,
      List.forall_mem_cons, List.forall_mem_append, List.forall_mem_cons]
    exact ⟨⟨hhead, hfield 2 _, hspace, hfield 4 _, hspace, hfield 4 _⟩, by decide⟩
  exact fun hin => hline '#' (hin.subset (by decide)) rfl

/-- A block does not end before its end marker. -/
theorem body_inner (hlabels : Sound Label.pc24 Label.name labels)
    (htargets : Sound Prod.fst Prod.snd targets)
    (banks : List Nat) (regions : List Region) (promoteNames : Bool) (bank : Nat) :
    ∀ l ∈ (body d banks labels regions targets promoteNames bank).map (· ++ ['\n']), Inner l := by
  have hproper := body_proper (d := d) hlabels htargets banks regions promoteNames bank
  have hclear : ∀ l ∈ body d banks labels regions targets promoteNames bank,
      ¬ END_MARK.take 20 <+: strip (l ++ ['\n']) ∧ ¬ END_MARK <:+: l ++ ['\n'] := by
    refine forall_mem_body hlabels htargets (by decide +kernel) (fun r => ?_)
      (fun pc24 name hname => ?_)
      (fun pc24 name hname => ?_) banks regions promoteNames bank
    · obtain ⟨v, hv⟩ := strip_cons (c := 'd') (by decide) ("ata_region ".toList ++
        (hexField 2 r.key ++ (' ' :: (hexField 4 r.start ++ (' ' :: hexField 4 r.stop)))) ++ ['\n'])
      exact ⟨not_mark hv (by decide) rfl, end_apart_regionLine r⟩
    · have hstrip := strip_entryLine (rfl : "name".toList = _) (by decide) hname pc24
      refine ⟨?_, end_apart_entryLine (by decide) hname pc24⟩
      rw [hstrip]
      exact not_mark (c := 'n') rfl (by decide) rfl
    · have hstrip := strip_entryLine (rfl : "symbol".toList = _) (by decide) hname pc24
      refine ⟨?_, end_apart_entryLine (by decide) hname pc24⟩
      rw [hstrip]
      exact not_mark (c := 's') rfl (by decide) rfl
  intro l hl
  obtain ⟨u, hu, rfl⟩ := List.mem_map.1 hl
  exact ⟨hproper _ hl, (hclear u hu).1, (hclear u hu).2⟩

end Block

/-! ## Writing a block again -/

/-- The file `g` is `f` with another block in it. -/
structure Rewrites (alnum : Char → Bool) (f g : ConfigFile) : Prop where
  bank : g.bank = f.bank
  surroundings : surroundings g.text = surroundings f.text
  declared : g.declared alnum = f.declared alnum
  handWritten : HandWritten g.text

theorem emitted_rewrites {d : Disassembly} {labels : List Label} {targets : List Entry}
    {f : ConfigFile}
    (hlabels : Sound Label.pc24 Label.name labels) (htargets : Sound Prod.fst Prod.snd targets)
    (hf : HandWritten f.text)
    (banks : List Nat) (regions : List Region) (promoteNames : Bool) : Rewrites alnum f { f with
      text := splice (generated (body d banks labels regions targets promoteNames f.bank))
        f.text } := by
  obtain ⟨front, back, hfront, hback, heq⟩ := hf.surrounded
  have hinner := body_inner (d := d) hlabels htargets banks regions promoteNames f.bank
  let inner := (body d banks labels regions targets promoteNames f.bank).map (· ++ ['\n'])
  have htext : splice (generated (body d banks labels regions targets promoteNames f.bank)) f.text =
      front.flatten ++
        (BEGIN_MARK ++ '\n' :: (inner.flatten ++ (END_MARK ++ '\n' :: back.flatten))) := by
    rw [splice, heq, generated_eq]
    simp [inner]
  have hsame : surroundings
    (splice (generated (body d banks labels regions targets promoteNames f.bank)) f.text) =
      surroundings f.text := by
    rw [htext, surroundings_block hfront hinner, heq]
  have hwritten : HandWritten
    (splice (generated (body d banks labels regions targets promoteNames f.bank)) f.text) := by
    rw [htext]
    exact .block hfront hinner hback
  refine ⟨rfl, hsame, ?_, hwritten⟩
  -- What is declared by hand stands in what stays around the block.
  rw [← kept_eq_declared hwritten, ← kept_eq_declared hf]
  unfold ConfigFile.kept leadLines
  simp only [hsame]

/-- The run sees of a file its bank, what is declared by hand, and what stays around the block. -/
theorem importStructure_rewrites {rewrite : ConfigFile → ConfigFile} {configs configs' : Configs}
    (hfiles : configs'.files = configs.files.map rewrite)
    (h : ∀ f ∈ configs.files, Rewrites alnum f (rewrite f))
    (d : Disassembly) (romSize : Nat) (promoteNames : Bool) :
    importStructure alnum configs' d romSize promoteNames =
      importStructure alnum configs d romSize promoteNames := by
  obtain ⟨nonCode, hnonCode⟩ := nonCodeRegions_some d.kinds d.archs
  have hbanks : configs'.files.map ConfigFile.bank = configs.files.map ConfigFile.bank := by
    rw [hfiles, List.map_map]
    exact List.map_congr_left fun f hf => (h f hf).bank
  have hdeclared : declaredEntryAddresses alnum configs' =
    declaredEntryAddresses alnum configs := by
    unfold declaredEntryAddresses
    rw [hfiles, List.flatMap_map]
    exact congrArg _ (List.flatMap_congr fun f hf => (h f hf).declared)
  have htargets : ∀ labels, dispatchTargets alnum configs' d labels =
    dispatchTargets alnum configs d labels := by
    intro labels
    unfold dispatchTargets
    rw [hdeclared]
  rw [importStructure_eq hnonCode, importStructure_eq hnonCode, htargets]
  unfold emitCfg
  simp only [hbanks]
  split
  · rfl
  · rw [hfiles, List.map_map]
    refine congrArg some (List.map_congr_left fun f hf => ?_)
    obtain ⟨hbank, hsame, -, -⟩ := h f hf
    simp only [Function.comp_apply, splice, hbank, hsame]

/-- An import is forgotten by the next one: whatever disassembly the files were written from, a
later run writes what it would have written into the files as they were before, and importing the
same disassembly twice changes nothing. -/
theorem import_replaces (alnum : Char → Bool) (configs : Configs)
    (hhand : ∀ f ∈ configs.files, HandWritten f.text)
    (d : Disassembly) (romSize : Nat) (promoteNames : Bool) (out : List ConfigFile)
    (hout : importStructure alnum configs d romSize promoteNames = some out) :
    ∃ configs' : Configs, configs'.files = out ∧ (∀ f ∈ configs'.files, HandWritten f.text) ∧
      (∀ (d' : Disassembly) (romSize' : Nat) (promoteNames' : Bool),
        importStructure alnum configs' d' romSize' promoteNames' =
          importStructure alnum configs d' romSize' promoteNames') ∧
      importStructure alnum configs' d romSize promoteNames = some out := by
  obtain ⟨nonCode, hnonCode⟩ := nonCodeRegions_some d.kinds d.archs
  let labels := classifyLabels d.symbols d.parentNames romSize
  let targets := dispatchTargets alnum configs d labels
  let regions := (nonCode ++ unmappedBankRegions d.kinds romSize).mergeSort tupleLe
  let banks := configs.files.map ConfigFile.bank
  let rewrite : ConfigFile → ConfigFile := fun f =>
    { f with
      text := splice (generated (body d banks labels regions targets promoteNames f.bank)) f.text }
  have hrewrites : ∀ f ∈ configs.files, Rewrites alnum f (rewrite f) := fun f hf =>
    emitted_rewrites (classifyLabels_sound d.symbols d.parentNames romSize)
      ((pointerTableTargets_sound d).filter _) (hhand f hf) banks regions promoteNames
  have hfiles : out = configs.files.map rewrite := by
    rw [importStructure_eq hnonCode] at hout
    unfold emitCfg at hout
    extract_lets at hout
    split at hout
    · cases hout
    · exact (Option.some.inj hout).symm
  let configs' : Configs :=
    { files := configs.files.map rewrite
      sorted := List.pairwise_map.2 configs.sorted
      bounded := by simpa [rewrite] using configs.bounded }
  have hsame := importStructure_rewrites (rfl : configs'.files = _) hrewrites
  refine ⟨configs', hfiles.symm, ?_, hsame, (hsame d romSize promoteNames).trans hout⟩
  intro f hf
  obtain ⟨g, hg, rfl⟩ := List.mem_map.1 hf
  exact (hrewrites g hg).handWritten

theorem emptyBank_handWritten : ∀ f ∈ emptyBank.files, HandWritten f.text := by
  intro f hf
  rw [List.mem_singleton.1 hf]
  have hplain : ∀ l ∈ ["bank = 00\n".toList], Plain l := by
    rw [List.forall_mem_singleton]
    exact ⟨by decide +kernel, by decide +kernel, by decide +kernel, by decide +kernel, by decide +kernel⟩
  exact HandWritten.plain hplain

/-- The import of one table, over the import of another. -/
theorem emptyBank_reimported :
    ∃ out, importStructure (fun _ => false) emptyBank tableOfFoo 0x80000 true = some out ∧
    ∃ configs' : Configs, configs'.files = out ∧
    importStructure (fun _ => false) configs' tableOfFoo 0x80000 false =
      importStructure (fun _ => false) emptyBank tableOfFoo 0x80000 false := by
  obtain ⟨nonCode, hnonCode⟩ := nonCodeRegions_some tableOfFoo.kinds tableOfFoo.archs
  have hrun : importStructure (fun _ => false) emptyBank tableOfFoo 0x80000 true = _ :=
    importStructure_eq hnonCode
  obtain ⟨out, hout⟩ := Option.ne_none_iff_exists'.1 fun hnone =>
    absurd (emitCfg_eq_none.1 (hrun.symm.trans hnone)) (by decide)
  obtain ⟨configs', hfiles, -, hsame, -⟩ :=
    import_replaces (fun _ => false) emptyBank emptyBank_handWritten tableOfFoo 0x80000 true out hout
  exact ⟨out, hout, configs', hfiles, hsame tableOfFoo 0x80000 false⟩

end SmwRecomp.Ingest
