import Mathlib.Data.List.Basic
import Mathlib.Algebra.Order.Ring.Nat

/-!
# C enumerations

An object of a C enumeration type holds any 32-bit word: the named constants are only some of
them, and a decoder can store a word that names none before a later check refuses it.

* `Enumeration` — the named constants of one enumeration and their codes.
* `CEnum` — what an object of that type holds: a constant, or a *stray* word.
* `CEnum.ofWord_toWord`, `CEnum.toWord_ofWord` — the two views are the same data.
-/

set_option autoImplicit false

namespace SmwRecomp

/-- The named constants of a C enumeration, with pairwise different codes. -/
class Enumeration (α : Type) where
  code : α → UInt32
  constants : List α
  mem_constants : ∀ a, a ∈ constants
  code_injective : ∀ a b, code a = code b → a = b

variable {α : Type} [Enumeration α]

/-- The constant a word names, if it names one. -/
def named (α : Type) [Enumeration α] (w : UInt32) : Option α :=
  (Enumeration.constants : List α).find? (fun a => Enumeration.code a == w)

theorem code_of_named {w : UInt32} {a : α} (h : named α w = some a) : Enumeration.code a = w := by
  have := List.find?_some h
  simpa using this

theorem named_code (a : α) : named α (Enumeration.code a) = some a := by
  cases h : named α (Enumeration.code a) with
  | none =>
      have := (List.find?_eq_none.1 h) a (Enumeration.mem_constants a)
      simp at this
  | some b => rw [Enumeration.code_injective b a (code_of_named h)]

/-- The contents of an object of the enumeration type `α`. -/
inductive CEnum (α : Type) [Enumeration α] where
  | is (a : α)
  | stray (w : {w : UInt32 // named α w = none})
  deriving DecidableEq, Repr

namespace CEnum

instance : Coe α (CEnum α) := ⟨.is⟩

instance [Inhabited α] : Inhabited (CEnum α) := ⟨.is default⟩

def ofWord (w : UInt32) : CEnum α :=
  match h : named α w with
  | some a => .is a
  | none => .stray ⟨w, h⟩

def toWord : CEnum α → UInt32
  | .is a => Enumeration.code a
  | .stray w => w.1

@[simp] theorem toWord_is (a : α) : (CEnum.is a).toWord = Enumeration.code a := rfl

@[simp] theorem toWord_ofWord (w : UInt32) : (ofWord w : CEnum α).toWord = w := by
  unfold ofWord
  split
  · rename_i a h; exact code_of_named h
  · rfl

@[simp] theorem ofWord_toWord (e : CEnum α) : ofWord e.toWord = e := by
  unfold ofWord
  cases e with
  | is a =>
      split
      · rename_i b h
        rw [toWord_is, named_code] at h
        cases h; rfl
      · rename_i h
        rw [toWord_is, named_code] at h
        cases h
  | stray w =>
      split
      · rename_i b h
        rw [show toWord (.stray w) = w.1 from rfl, w.2] at h
        cases h
      · rfl

theorem toWord_injective {e f : CEnum α} (h : e.toWord = f.toWord) : e = f := by
  rw [← ofWord_toWord e, h, ofWord_toWord]

end CEnum

end SmwRecomp
