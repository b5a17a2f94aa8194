import Mathlib.Data.List.Nodup

/-!
# A dictionary in the order of insertion

* `Dict` — entries with distinct keys.
* `get?`, `set` — a new key goes to the end, a value is replaced where it stands.
* `mem_of_get?`, `mem_set` — what is looked up is there, and what is there after an assignment.
-/

set_option autoImplicit false

namespace SmwRecomp

variable {κ α : Type} [DecidableEq κ]

/-- The entries after `d[k] = a`. -/
def setEntry (k : κ) (a : α) : List (κ × α) → List (κ × α)
  | [] => [(k, a)]
  | e :: es => if e.1 = k then (k, a) :: es else e :: setEntry k a es

theorem mem_setEntry {k : κ} {a : α} {e : κ × α} : ∀ {es : List (κ × α)}, e ∈ setEntry k a es →
    e = (k, a) ∨ e ∈ es
  | [], h => .inl (List.mem_singleton.1 h)
  | x :: xs, h => by
    unfold setEntry at h
    split at h
    · exact (List.mem_cons.1 h).imp_right (List.mem_cons_of_mem _)
    · rcases List.mem_cons.1 h with rfl | h
      · exact .inr List.mem_cons_self
      · exact (mem_setEntry h).imp_right (List.mem_cons_of_mem _)

theorem setEntry_nodup {k : κ} {a : α} : ∀ {es : List (κ × α)}, (es.map Prod.fst).Nodup →
    ((setEntry k a es).map Prod.fst).Nodup
  | [], _ => List.nodup_singleton _
  | x :: xs, h => by
    unfold setEntry
    split
    · rename_i hk
      rw [List.map_cons] at h ⊢
      rwa [← hk]
    · rename_i hk
      rw [List.map_cons, List.nodup_cons] at h ⊢
      refine ⟨fun hmem => ?_, setEntry_nodup h.2⟩
      obtain ⟨e, he, hkey⟩ := List.mem_map.1 hmem
      rcases mem_setEntry he with rfl | he
      · exact hk hkey.symm
      · exact h.1 (hkey ▸ List.mem_map_of_mem he)

theorem mem_of_lookup {k : κ} {a : α} : ∀ {es : List (κ × α)}, es.lookup k = some a → (k, a) ∈ es
  | [], h => by cases h
  | x :: xs, h => by
    rw [List.lookup_cons] at h
    by_cases hk : k = x.1
    · rw [beq_iff_eq.2 hk] at h
      cases h
      rw [hk]
      exact List.mem_cons_self
    · rw [beq_eq_false_iff_ne.2 hk] at h
      exact List.mem_cons_of_mem _ (mem_of_lookup h)

structure Dict (κ α : Type) where
  entries : List (κ × α)
  nodup : (entries.map Prod.fst).Nodup

namespace Dict

def empty : Dict κ α := ⟨[], List.nodup_nil⟩

/-- `d.get(k)`. -/
def get? (d : Dict κ α) (k : κ) : Option α := d.entries.lookup k

/-- `d[k] = a`. -/
def set (d : Dict κ α) (k : κ) (a : α) : Dict κ α :=
  ⟨setEntry k a d.entries, setEntry_nodup d.nodup⟩

variable {d : Dict κ α} {k : κ} {a : α}

theorem mem_of_get? (h : d.get? k = some a) : (k, a) ∈ d.entries := mem_of_lookup h

theorem mem_set {e : κ × α} (h : e ∈ (d.set k a).entries) : e = (k, a) ∨ e ∈ d.entries :=
  mem_setEntry h

end Dict

end SmwRecomp
