import SmwRecomp.Lib.Bytes
import Mathlib.Data.List.Induction

/-!
# A reader that goes on

A reader of a byte buffer that clears a flag at what is wrong and reads on, zeros from then on; and
the tables it fills.

* `Cursor`, `FlaggedM` — where the reader stands and whether all was well; an access outside the
  buffer or a table stops with `outOfBounds`, giving up with `refused`.
* `read16`, `read32`, `readBytes`, `flagIf`, `giveUpIf` — one step.
* `entry`, `putEntry`, `fill` — a table by index, and the loop that fills one.
* `Delivers`, `firstAnswer` — work that always delivers, and a loop that may return early.
* `Walks` — a reader that gives up, or delivers and stays inside; the step rules and `walks_fill`.
* `Takes` — a reader that takes what it delivers off the front of what is left; the step rules and
  `takes_fill`.
* `foldlM_and`, `foldlM_outOfBounds`, `mapM_ok` — a loop that carries a flag, one that leaves a
  table, and one that collects.
-/

set_option autoImplicit false

namespace SmwRecomp.Flagged

variable {α β : Type}

structure Cursor where
  pos : Nat
  ok : Bool

abbrev FlaggedM := StateT Cursor (Except Stop)

/-! ## Steps -/

/-- What is left is too little, or something was wrong before. -/
def Short (p : Bytes) (c : Cursor) (n : Nat) : Prop :=
  c.ok = false ∨ p.length < c.pos ∨ p.length - c.pos < n

instance (p : Bytes) (c : Cursor) (n : Nat) : Decidable (Short p c n) :=
  inferInstanceAs (Decidable (_ ∨ _ ∨ _))

def read16 (p : Bytes) : FlaggedM UInt16 := fun c =>
  if Short p c 2 then .ok (0, { c with ok := false })
  else (fetch16 p c.pos).map fun v => (v, { c with pos := c.pos + 2 })

def read32 (p : Bytes) : FlaggedM UInt32 := fun c =>
  if Short p c 4 then .ok (0, { c with ok := false })
  else (fetch32 p c.pos).map fun v => (v, { c with pos := c.pos + 4 })

/-- The bytes, or nothing. -/
def readBytes (p : Bytes) (n : Nat) : FlaggedM (Option Bytes) := fun c =>
  if Short p c n then .ok (none, { c with ok := false })
  else (fetchBytes p c.pos n).map fun v => (some v, { c with pos := c.pos + n })

/-- `if (wrong) r.ok = 0;`. -/
def flagIf (wrong : Prop) [Decidable wrong] : FlaggedM Unit := fun c =>
  .ok ((), if wrong then { c with ok := false } else c)

/-- `if (wrong) goto bad;`. -/
def giveUpIf (wrong : Prop) [Decidable wrong] : FlaggedM Unit := fun c =>
  (refuseIf wrong).map fun _ => ((), c)

/-! ## Tables -/

def entry (table : List α) (i : Nat) : Except Stop α :=
  match table[i]? with
  | some a => .ok a
  | none => .error .outOfBounds

def putEntry (table : List α) (i : Nat) (a : α) : Except Stop (List α) :=
  if i < table.length then .ok (table.set i a) else .error .outOfBounds

/-- One turn of the loop that fills a table. -/
def fillAt (read : Nat → List α → FlaggedM α) (table : List α) (i : Nat) : FlaggedM (List α) := do
  let a ← read i table
  StateT.lift (putEntry table i a)

/-- The first `n` entries of a table of `capacity` zeros are read in order. -/
def fill (zero : α) (capacity n : Nat) (read : Nat → List α → FlaggedM α) : FlaggedM (List α) :=
  (List.range n).foldlM (fillAt read) (List.replicate capacity zero)

theorem entry_ok {table : List α} {i : Nat} {a : α} (h : table[i]? = some a) :
    entry table i = .ok a := by
  unfold entry
  rw [h]

theorem entry_of_lt {table : List α} {i : Nat} (h : i < table.length) :
    ∃ a, table[i]? = some a ∧ entry table i = .ok a :=
  ⟨table[i], List.getElem?_eq_getElem h, entry_ok (List.getElem?_eq_getElem h)⟩

theorem entry_of_le {table : List α} {i : Nat} (h : table.length ≤ i) :
    entry table i = .error .outOfBounds := by
  unfold entry
  rw [List.getElem?_eq_none h]

theorem putEntry_ok {table : List α} {i : Nat} (a : α) (h : i < table.length) :
    putEntry table i a = .ok (table.set i a) := if_pos h

/-! ## Readers that stay inside -/

/-- The reader gives up, or it delivers something that `Q` holds of and has not left the buffer;
where all is still well it was so before, and `V` holds too. -/
def Walks (p : Bytes) (m : FlaggedM α) (Q V : α → Prop) : Prop :=
  ∀ c : Cursor, c.pos ≤ p.length → m c = .error .refused ∨
    ∃ a c', m c = .ok (a, c') ∧ c'.pos ≤ p.length ∧ Q a ∧ (c'.ok = true → c.ok = true ∧ V a)

variable {p : Bytes} {Q V : α → Prop}

theorem Walks.pure {a : α} (hQ : Q a) (hV : V a) : Walks p (Pure.pure a) Q V := fun c hc =>
  .inr ⟨a, c, rfl, hc, hQ, fun h => ⟨h, hV⟩⟩

theorem Walks.bind {m : FlaggedM α} {f : α → FlaggedM β} {R W : β → Prop} (hm : Walks p m Q V)
    (hf : ∀ a, Q a → Walks p (f a) R fun b => V a → W b) : Walks p (m >>= f) R W := by
  intro c hc
  rcases hm c hc with hm | ⟨a, c', hm, hc', hQ, hV⟩
  · left
    show (m c >>= fun r => f r.1 r.2) = _
    rw [hm, error_bind]
  · have hrun : (m >>= f) c = f a c' := by
      show (m c >>= fun r => f r.1 r.2) = _
      rw [hm, ok_bind]
    rw [hrun]
    rcases hf a hQ c' hc' with h | ⟨b, c'', h, hc'', hR, hW⟩
    · exact .inl h
    · refine .inr ⟨b, c'', h, hc'', hR, fun hok => ?_⟩
      obtain ⟨hok', hW⟩ := hW hok
      obtain ⟨hok, ha⟩ := hV hok'
      exact ⟨hok, hW ha⟩

theorem Walks.mono {m : FlaggedM α} {R W : α → Prop} (hm : Walks p m Q V) (hQ : ∀ a, Q a → R a)
    (hV : ∀ a, Q a → V a → W a) : Walks p m R W := by
  intro c hc
  rcases hm c hc with h | ⟨a, c', h, hc', ha, hok⟩
  · exact .inl h
  · exact .inr ⟨a, c', h, hc', hQ a ha, fun hc => ⟨(hok hc).1, hV a ha (hok hc).2⟩⟩

/-- A step of which nothing is to be known. -/
theorem Walks.step {m : FlaggedM α} {f : α → FlaggedM β} {R W : β → Prop}
    (hm : Walks p m (fun _ => True) fun _ => True) (hf : ∀ a, Walks p (f a) R W) :
    Walks p (m >>= f) R W :=
  hm.bind fun a _ => (hf a).mono (fun _ h => h) fun _ _ h _ => h

theorem Walks.flagIf {wrong : Prop} [Decidable wrong] :
    Walks p (flagIf wrong) (fun _ => True) fun _ => ¬ wrong := by
  intro c hc
  by_cases h : wrong
  · refine .inr ⟨(), { c with ok := false }, ?_, hc, trivial, fun hok => ?_⟩
    · unfold Flagged.flagIf
      rw [if_pos h]
    · exact absurd hok Bool.false_ne_true
  · refine .inr ⟨(), c, ?_, hc, trivial, fun hok => ⟨hok, h⟩⟩
    unfold Flagged.flagIf
    rw [if_neg h]

theorem Walks.giveUpIf {wrong : Prop} [Decidable wrong] :
    Walks p (giveUpIf wrong) (fun _ => ¬ wrong) fun _ => True := by
  intro c hc
  unfold Flagged.giveUpIf
  by_cases h : wrong
  · exact .inl (by rw [refuseIf_pos h]; rfl)
  · exact .inr ⟨(), c, by rw [refuseIf_neg h]; rfl, hc, h, fun hok => ⟨hok, trivial⟩⟩

theorem not_short {c : Cursor} {n : Nat} (h : ¬ Short p c n) : c.pos + n ≤ p.length := by
  unfold Short at h
  omega

theorem short_walks {c : Cursor} (hc : c.pos ≤ p.length) {a : α} (hQ : Q a) :
    ∃ b c', (Except.ok (a, { c with ok := false }) : Except Stop (α × Cursor)) = .ok (b, c') ∧
      c'.pos ≤ p.length ∧ Q b ∧ (c'.ok = true → c.ok = true ∧ V b) :=
  ⟨a, { c with ok := false }, rfl, hc, hQ, fun h => absurd h Bool.false_ne_true⟩

theorem fetch16_ok {i : Nat} (h : i + 2 ≤ p.length) : ∃ w, fetch16 p i = .ok w := by
  have hlen : 2 ≤ (p.drop i).length := by rw [List.length_drop]; omega
  unfold fetch16
  match hd : p.drop i, hlen with
  | a :: b :: bs, _ => exact ⟨_, rfl⟩

theorem walks_read16 : Walks p (read16 p) (fun _ => True) fun _ => True := by
  intro c hc
  unfold read16
  split
  · exact .inr (short_walks hc trivial)
  · rename_i hroom
    obtain ⟨w, hw⟩ := fetch16_ok (not_short hroom)
    rw [hw]
    exact .inr ⟨w, _, rfl, not_short hroom, trivial, fun hok => ⟨hok, trivial⟩⟩

theorem walks_read32 : Walks p (read32 p) (fun _ => True) fun _ => True := by
  intro c hc
  unfold read32
  split
  · exact .inr (short_walks hc trivial)
  · rename_i hroom
    obtain ⟨w, hw⟩ := fetch32_ok (not_short hroom)
    rw [hw]
    exact .inr ⟨w, _, rfl, not_short hroom, trivial, fun hok => ⟨hok, trivial⟩⟩

theorem walks_readBytes (n : Nat) :
    Walks p (readBytes p n) (fun o => ∀ bs ∈ o, bs.length = n) fun _ => True := by
  intro c hc
  unfold readBytes
  split
  · exact .inr (short_walks hc fun bs hbs => nomatch hbs)
  · rename_i hroom
    obtain ⟨bs, hlen, hbs⟩ := fetchBytes_ok (not_short hroom)
    rw [hbs]
    refine .inr ⟨some bs, _, rfl, not_short hroom, ?_, fun hok => ⟨hok, trivial⟩⟩
    intro read hread
    cases hread
    exact hlen

theorem walks_lift {r : Except Stop α} {a : α} (h : r = .ok a) (hQ : Q a) (hV : V a) :
    Walks p (StateT.lift r) Q V := by
  intro c hc
  rw [h]
  exact .inr ⟨a, c, rfl, hc, hQ, fun hok => ⟨hok, hV⟩⟩

theorem walks_forM {f : α → FlaggedM Unit} :
    ∀ {l : List α}, (∀ a ∈ l, Walks p (f a) (fun _ => True) fun _ => True) →
      Walks p (l.forM f) (fun _ => True) fun _ => True
  | [], _ => Walks.pure trivial trivial
  | _ :: xs, h => (h _ List.mem_cons_self).step fun _ =>
    walks_forM (l := xs) fun a ha => h a (List.mem_cons_of_mem _ ha)

/-- What a filled table holds. -/
def Filled (capacity n : Nat) (Q : Nat → α → Prop) (table : List α) : Prop :=
  table.length = capacity ∧ ∀ i < n, ∃ a, table[i]? = some a ∧ Q i a

/-- The loop stays inside the table, and what every turn reads is what stands there in the end. -/
theorem walks_fill {zero : α} {capacity : Nat} {read : Nat → List α → FlaggedM α} :
    ∀ {n : Nat} {Q V : Nat → α → Prop}, n ≤ capacity →
      (∀ i < n, ∀ table, table.length = capacity → Walks p (read i table) (Q i) (V i)) →
      Walks p (fill zero capacity n read) (Filled capacity n Q)
        fun table => ∀ i < n, ∀ a, table[i]? = some a → V i a := by
  intro n
  induction n with
  | zero =>
    intro Q V _ _
    exact Walks.pure ⟨List.length_replicate, fun i hi => absurd hi (Nat.not_lt_zero i)⟩
      fun i hi => absurd hi (Nat.not_lt_zero i)
  | succ n ih =>
    intro Q V hn hread
    have hfill := ih (Nat.le_of_succ_le hn) fun i hi => hread i (Nat.lt_succ_of_lt hi)
    unfold fill at hfill ⊢
    rw [List.range_succ, List.foldlM_append]
    refine hfill.bind fun table htable => ?_
    obtain ⟨hlen, hhas⟩ := htable
    have hturn : Walks p (fillAt read table n) (Filled capacity (n + 1) Q) fun filled =>
        (∀ i < n, ∀ a, table[i]? = some a → V i a) → ∀ i < n + 1, ∀ a, filled[i]? =
          some a → V i a := by
      refine (hread n (Nat.lt_succ_self n) table hlen).bind fun a ha => ?_
      have hin : n < table.length := by omega
      refine walks_lift (putEntry_ok a hin) ⟨by rw [List.length_set, hlen], fun i hi => ?_⟩
        fun hva hbefore i hi b hb => ?_
      · rcases Nat.lt_succ_iff_lt_or_eq.1 hi with hi | rfl
        · rw [List.getElem?_set_ne (by omega)]
          exact hhas i hi
        · exact ⟨a, by rw [List.getElem?_set_self hin], ha⟩
      · rcases Nat.lt_succ_iff_lt_or_eq.1 hi with hi | rfl
        · rw [List.getElem?_set_ne (by omega)] at hb
          exact hbefore i hi b hb
        · rw [List.getElem?_set_self hin] at hb
          cases hb
          exact hva
    rw [List.foldlM_cons]
    exact (hturn.bind fun filled hfilled => Walks.pure hfilled fun h => h)

/-! ## Readers that read back -/

/-- Where all was well and these bytes are next, the reader takes them and delivers `a`. -/
def Takes (m : Bytes → FlaggedM α) (bs : Bytes) (a : α) : Prop :=
  ∀ pre post, m (pre ++ (bs ++ post)) ⟨pre.length, true⟩ = .ok (a, ⟨pre.length + bs.length, true⟩)

theorem Takes.pure (a : α) : Takes (fun _ => Pure.pure a) [] a := fun _ _ => rfl

theorem Takes.bind {m : Bytes → FlaggedM α} {f : α → Bytes → FlaggedM β} {bs cs : Bytes}
    {a : α} {b : β}
    (hm : Takes m bs a) (hf : Takes (f a) cs b) :
    Takes (fun p => m p >>= fun x => f x p) (bs ++ cs) b := by
  intro pre post
  show (m (pre ++ (bs ++ cs ++ post)) ⟨pre.length, true⟩ >>= fun r => f r.1 _ r.2) = _
  have hnext := hf (pre ++ bs) post
  rw [List.append_assoc, List.length_append] at hnext
  rw [List.append_assoc, hm pre (cs ++ post), ok_bind, hnext, List.length_append, Nat.add_assoc]

/-- A record is read field by field. -/
theorem Takes.field {m : Bytes → FlaggedM α} {f : α → Bytes → FlaggedM β} {bs : Bytes}
    {fields : List Bytes} {a : α} {b : β}
    (hm : Takes m bs a) (hf : Takes (f a) fields.flatten b) :
    Takes (fun p => m p >>= fun x => f x p) (bs :: fields).flatten b := by
  rw [List.flatten_cons]
  exact hm.bind hf

/-- A step that takes nothing. -/
theorem Takes.check {m : Bytes → FlaggedM α} {f : α → Bytes → FlaggedM β} {bs : Bytes}
    {a : α} {b : β}
    (hm : Takes m [] a) (hf : Takes (f a) bs b) : Takes (fun p => m p >>= fun x => f x p) bs b :=
  hm.bind hf

theorem takes_flagIf {wrong : Prop} [Decidable wrong] (h : ¬ wrong) :
    Takes (fun _ => flagIf wrong) [] () := by
  intro pre post
  exact congrArg (fun c => Except.ok ((), c)) (if_neg h)

theorem takes_giveUpIf {wrong : Prop} [Decidable wrong] (h : ¬ wrong) :
    Takes (fun _ => giveUpIf wrong) [] () := by
  intro pre post
  exact congrArg (Except.map fun _ => ((), (⟨pre.length, true⟩ : Cursor))) (refuseIf_neg h)

theorem takes_lift {r : Except Stop α} {a : α} (h : r = .ok a) :
    Takes (fun _ => StateT.lift r) [] a := by
  intro pre post
  rw [h]
  rfl

theorem takes_forM {f : α → FlaggedM Unit} : ∀ {l : List α}, (∀ a ∈ l, Takes (fun _ => f a) [] ()) →
    Takes (fun _ => l.forM f) [] ()
  | [], _ => Takes.pure ()
  | x :: xs, h => by
    rw [List.forall_mem_cons] at h
    exact h.1.check (takes_forM h.2)

theorem not_short_next {pre bs post : Bytes} {n : Nat} (h : bs.length = n) :
    ¬ Short (pre ++ (bs ++ post)) ⟨pre.length, true⟩ n := by
  subst h
  unfold Short
  simp only [List.length_append]
  rintro (h | h | h)
  · cases h
  · omega
  · omega

theorem takes_read16 (w : UInt16) : Takes read16 (le16 w) w := by
  intro pre post
  have hroom : ¬ Short (pre ++ (le16 w ++ post)) ⟨pre.length, true⟩ 2 := not_short_next rfl
  unfold read16
  rw [if_neg hroom]
  dsimp only
  rw [fetch16_at rfl rfl]
  rfl

theorem takes_read32 (w : UInt32) : Takes read32 (le32 w) w := by
  intro pre post
  have hroom : ¬ Short (pre ++ (le32 w ++ post)) ⟨pre.length, true⟩ 4 := not_short_next rfl
  unfold read32
  rw [if_neg hroom]
  dsimp only
  rw [fetch32_at rfl rfl]
  rfl

theorem takes_readBytes {n : Nat} {bs : Bytes} (h : bs.length = n) :
    Takes (fun p => readBytes p n) bs (some bs) := by
  intro pre post
  unfold readBytes
  dsimp only
  rw [if_neg (not_short_next h), fetchBytes_at rfl rfl h.symm, h]
  rfl

/-- A table is read back when every entry is, with the ones before it in place; what is not read
stays zero. -/
theorem takes_fill (zero : α) (capacity : Nat) (read : Bytes → Nat → List α → FlaggedM α)
    (image : α → Bytes) :
    ∀ {xs : List α}, xs.length ≤ capacity →
      (∀ front x back, xs = front ++ x :: back → ∀ rest, rest.length + front.length = capacity →
        Takes (fun p => read p front.length (front ++ rest)) (image x) x) →
      Takes (fun p => fill zero capacity xs.length (read p)) (xs.flatMap image)
        (xs ++ List.replicate (capacity - xs.length) zero) := by
  intro xs
  induction xs using List.reverseRecOn with
  | nil =>
    intro _ _
    exact Takes.pure _
  | append_singleton xs x ih =>
    intro hcapacity hread
    rw [List.length_append, List.length_singleton] at hcapacity ⊢
    have hfill := ih (Nat.le_of_succ_le hcapacity) fun front y back hxs =>
      hread front y (back ++ [x]) (by rw [hxs, List.append_assoc, List.cons_append])
    have hroom : capacity - xs.length = (capacity - (xs.length + 1)) + 1 := by omega
    have hlast :=
      hread xs x [] rfl (List.replicate (capacity - xs.length) zero)
      (by rw [List.length_replicate]; omega)
    have hput : putEntry (xs ++ List.replicate (capacity - xs.length) zero) xs.length x =
        .ok (xs ++ [x] ++ List.replicate (capacity - (xs.length + 1)) zero) := by
      rw [putEntry_ok _ (by rw [List.length_append, List.length_replicate]; omega), hroom,
        List.replicate_succ, List.set_append_right _ _ (Nat.le_refl _), Nat.sub_self,
        List.set_cons_zero, List.append_assoc, List.singleton_append]
    have hturn : Takes
      (fun p => fillAt (read p) (xs ++ List.replicate (capacity - xs.length) zero) xs.length)
      (image x)
        (xs ++ [x] ++ List.replicate (capacity - (xs.length + 1)) zero) := by
      have hbind := hlast.bind (f := fun y _ => StateT.lift
        (putEntry (xs ++ List.replicate (capacity - xs.length) zero) xs.length y)) (takes_lift hput)
      rwa [List.append_nil] at hbind
    have hall := hfill.bind (f := fun table p => fillAt (read p) table xs.length) hturn
    rw [List.flatMap_append, List.flatMap_singleton]
    intro pre post
    have hrun := hall pre post
    unfold fill at hrun ⊢
    dsimp only
    rw [List.range_succ, List.foldlM_append, ← hrun]
    simp only [List.foldlM_cons, List.foldlM_nil, bind_pure]

/-! ## Loops that carry a flag -/

/-- A loop whose every turn goes through clears the flag as its turns do. -/
theorem foldlM_and {f : Bool → α → Except Stop Bool} {test : α → Bool} :
    ∀ {l : List α} (b : Bool), (∀ b, ∀ a ∈ l, f b a = .ok (b && test a)) →
      l.foldlM f b = .ok (b && l.all test)
  | [], b, _ => by rw [List.all_nil, Bool.and_true]; rfl
  | x :: xs, b, h => by
    rw [List.foldlM_cons, h b x List.mem_cons_self, ok_bind,
      foldlM_and _ fun b a ha => h b a (List.mem_cons_of_mem _ ha), List.all_cons, Bool.and_assoc]

/-- A loop with a turn that leaves a table leaves it. -/
theorem foldlM_outOfBounds {f : β → α → Except Stop β} :
    ∀ {l : List α} (b : β),
      (∀ b, ∀ a ∈ l, (∃ c, f b a = .ok c) ∨ f b a = .error .outOfBounds) →
      (∃ a ∈ l, ∀ b, f b a = .error .outOfBounds) → l.foldlM f b = .error .outOfBounds
  | [], _, _, h => by
    obtain ⟨a, ha, -⟩ := h
    exact nomatch ha
  | x :: xs, b, hturn, h => by
    rw [List.foldlM_cons]
    rcases hturn b x List.mem_cons_self with ⟨c, hc⟩ | hx
    · rw [hc, ok_bind]
      refine foldlM_outOfBounds c (fun b a ha => hturn b a (List.mem_cons_of_mem _ ha)) ?_
      obtain ⟨a, ha, hbad⟩ := h
      rcases List.mem_cons.1 ha with rfl | ha
      · rw [hbad b] at hc
        cases hc
      · exact ⟨a, ha, hbad⟩
    · rw [hx, error_bind]

/-- A loop that collects what its turns deliver. -/
theorem mapM_ok {f : α → Except Stop β} {P : β → Prop} :
    ∀ {l : List α}, (∀ a ∈ l, ∃ b, f a = .ok b ∧ P b) →
      ∃ bs, l.mapM f = .ok bs ∧ bs.length = l.length ∧ ∀ b ∈ bs, P b
  | [], _ => ⟨[], rfl, rfl, fun b hb => nomatch hb⟩
  | x :: xs, h => by
    obtain ⟨b, hb, hP⟩ := h x List.mem_cons_self
    obtain ⟨bs, hbs, hlen, hall⟩ := mapM_ok fun a ha => h a (List.mem_cons_of_mem _ ha)
    refine ⟨b :: bs, ?_, congrArg (· + 1) hlen, List.forall_mem_cons.2 ⟨hP, hall⟩⟩
    rw [List.mapM_cons, hb, ok_bind, hbs]
    rfl

/-! ## Work that delivers -/

/-- Something is delivered that `Q` holds of. -/
def Delivers (m : Except Stop α) (Q : α → Prop) : Prop := ∃ a, m = .ok a ∧ Q a

theorem Delivers.pure {a : α} (h : Q a) : Delivers (Pure.pure a) Q := ⟨a, rfl, h⟩

theorem Delivers.bind {m : Except Stop α} {f : α → Except Stop β} {R : β → Prop} (hm : Delivers m Q)
    (hf : ∀ a, Q a → Delivers (f a) R) : Delivers (m >>= f) R := by
  obtain ⟨a, rfl, ha⟩ := hm
  exact hf a ha

theorem Delivers.ite {c : Prop} [Decidable c] {m m' : Except Stop α} (hm : c → Delivers m Q)
    (hm' : ¬ c → Delivers m' Q) : Delivers (if c then m else m') Q := by
  split
  · exact hm ‹c›
  · exact hm' ‹¬ c›

theorem delivers_entry {table : List α} {i : Nat} (h : i < table.length) :
    Delivers (entry table i) fun a => table[i]? = some a := by
  obtain ⟨a, ha, hentry⟩ := entry_of_lt h
  exact ⟨a, hentry, ha⟩

theorem delivers_putEntry {table : List α} {i : Nat} (a : α) (h : i < table.length) :
    Delivers (putEntry table i a) fun table' => table'.length = table.length :=
  ⟨_, putEntry_ok a h, List.length_set⟩

theorem delivers_foldlM {f : β → α → Except Stop β} {I : β → Prop} {l : List α} {b : β}
    (hturn : ∀ b, ∀ a ∈ l, I b → Delivers (f b a) I) (hb : I b) : Delivers (l.foldlM f b) I :=
  foldlM_ok hturn hb

theorem delivers_mapM {f : α → Except Stop β} {P : β → Prop} {l : List α}
    (hturn : ∀ a ∈ l, Delivers (f a) P) :
    Delivers (l.mapM f) fun bs => bs.length = l.length ∧ ∀ b ∈ bs, P b := mapM_ok hturn

/-- The first answer of a loop that may return early. -/
def firstAnswer (f : α → Except Stop (Option β)) : List α → Except Stop (Option β)
  | [] => .ok none
  | x :: xs => do
    match ← f x with
    | some b => return some b
    | none => firstAnswer f xs

theorem delivers_firstAnswer {f : α → Except Stop (Option β)} {P : β → Prop} :
    ∀ {l : List α}, (∀ a ∈ l, Delivers (f a) fun o => ∀ b ∈ o, P b) →
      Delivers (firstAnswer f l) fun o => ∀ b ∈ o, P b
  | [], _ => ⟨none, rfl, fun b hb => nomatch hb⟩
  | x :: xs, h => by
    refine (h x List.mem_cons_self).bind fun o ho => ?_
    cases o with
    | some b => exact ⟨some b, rfl, ho⟩
    | none => exact delivers_firstAnswer fun a ha => h a (List.mem_cons_of_mem _ ha)

end SmwRecomp.Flagged
