import Mathlib

/-! Where a pattern that begins with a mark can stand in a text of marked names and values without
marks. -/

namespace Firmware.Delimited

variable {Symbol : Type*} {mark : Symbol} {pattern text piece : List Symbol}

theorem infix_skip (clean : mark ∉ piece) :
    mark :: pattern <:+: piece ++ text ↔ mark :: pattern <:+: text := by
  induction piece with
  | nil => exact Iff.rfl
  | cons symbol piece ih =>
      rw [List.mem_cons, not_or] at clean
      rw [List.cons_append, List.infix_cons_iff, ih clean.2, List.cons_prefix_cons]
      exact or_iff_right (fun here => clean.1 here.1)

theorem infix_mark :
    mark :: pattern <:+: mark :: text ↔ pattern <+: text ∨ mark :: pattern <:+: text := by
  rw [List.infix_cons_iff, List.cons_prefix_cons]
  simp only [true_and]

/-- Two names that end at the same mark are the same. -/
theorem prefix_mark {name label front back : List Symbol} (nameClean : mark ∉ name)
    (labelClean : mark ∉ label) :
    name ++ mark :: front <+: label ++ mark :: back ↔ name = label ∧ front <+: back := by
  induction name generalizing label with
  | nil =>
      cases label with
      | nil => simp
      | cons symbol label =>
          have differs : mark ≠ symbol := fun same => labelClean (same ▸ List.mem_cons_self)
          simp [differs]
  | cons symbol name ih =>
      rw [List.mem_cons, not_or] at nameClean
      cases label with
      | nil =>
          have differs : symbol ≠ mark := fun same => nameClean.1 same.symm
          simp [differs]
      | cons other label =>
          rw [List.mem_cons, not_or] at labelClean
          rw [List.cons_append, List.cons_append, List.cons_prefix_cons,
            ih nameClean.2 labelClean.2, List.cons.injEq, and_assoc]

end Firmware.Delimited
