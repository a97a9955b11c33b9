import JsonValidators.Json.Equality
import Mathlib.Data.List.Forall2

/-!
Equality up to the order of keys, read off the definition: lists of items agree item by
item, and an object is covered by another if every entry agrees with what its key leads
to in the other.
-/

namespace JsonValidators

theorem Number.agrees_comm (x y : Number) : x.agrees y = y.agrees x := by
  unfold agrees Binary64.numericEq
  exact Bool.beq_comm

/-- Numbers that agree with the same number agree. -/
theorem Number.agrees_of_agrees {x y z : Number} (h : x.agrees z) (h' : y.agrees z) :
    x.agrees y := by
  unfold agrees Binary64.numericEq at *
  exact beq_iff_eq.mpr ((beq_iff_eq.mp h).trans (beq_iff_eq.mp h').symm)

theorem Number.agrees_toBinary64 (value : Number) : (float value.toBinary64).agrees value := by
  simp [agrees, toBinary64, Binary64.numericEq]

namespace Json

variable {sameNumber : Number → Number → Bool}

theorem equalItemsBy_iff {xs ys : List Json} : equalItemsBy sameNumber xs ys ↔
    List.Forall₂ (fun x y => equalBy sameNumber x y) xs ys := by
  induction xs generalizing ys with
  | nil => cases ys <;> simp [equalItemsBy]
  | cons x xs ih =>
    cases ys with
    | nil => simp [equalItemsBy]
    | cons y ys => simp [equalItemsBy, ih]

theorem coveredBy_iff {xs ys : Entries Json} : coveredBy sameNumber xs ys ↔
    ∀ entry ∈ xs, ∃ y, Entries.get? ys entry.1 = some y ∧ equalBy sameNumber entry.2 y := by
  induction xs with
  | nil => simp [coveredBy]
  | cons entry xs ih =>
    obtain ⟨key, x⟩ := entry
    rw [coveredBy, Bool.and_eq_true, ih, List.forall_mem_cons]
    cases Entries.get? ys key <;> simp

end Json

end JsonValidators
