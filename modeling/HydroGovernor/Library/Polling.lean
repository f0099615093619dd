import Mathlib.Data.Bool.Basic
import Mathlib.Data.List.Basic
import Mathlib.Data.Int.Order.Basic
import Mathlib.Tactic.Common

/-! A task that waits for a level by looking at a line again and again, and that the scheduler may
take the processor from. -/

namespace Firmware.Polling

/-- From one time to the other the task takes at most `span`, unless it is preempted at `away` in
between, and then for however long. -/
def Takes (away span before now : Int) : Prop :=
  before ≤ now ∧ (now ≤ before + span ∨ before ≤ away ∧ away < now)

def Holds (signal : Int → Bool) (level : Bool) (first stop : Int) : Prop :=
  ∀ time, first ≤ time → time < stop → signal time = level

/-- One wait for a level from `now` on: the clock after each look in vain, the time of the look
that finds the level, and the clock after it. Nothing is said about what follows a timeout. -/
inductive Looks (signal : Int → Bool) (away gap : Int) (level : Bool) (timeout start : Int) :
    Int → List Int → Int → Int → Prop
  | found {now look last : Int} (looks : Takes away gap now look) (there : signal look = level)
      (reads : Takes away gap look last) :
      Looks signal away gap level timeout start now [] look last
  | missed {now look miss found last : Int} {misses : List Int} (looks : Takes away gap now look)
      (absent : signal look = !level) (reads : Takes away gap look miss)
      (early : miss - start < timeout)
      (rest : Looks signal away gap level timeout start miss misses found last) :
      Looks signal away gap level timeout start now (miss :: misses) found last
  | expired {now look miss found last : Int} {misses : List Int} (looks : Takes away gap now look)
      (absent : signal look = !level) (reads : Takes away gap look miss)
      (late : timeout ≤ miss - start) :
      Looks signal away gap level timeout start now (miss :: misses) found last

/-- No look of the wait came after the timeout. -/
def InTime (timeout start : Int) (misses : List Int) : Prop :=
  ∀ miss ∈ misses, miss - start < timeout

/-! Steps in a row -/

theorem Takes.trans {away first second before between now : Int}
    (front : Takes away first before between) (back : Takes away second between now) :
    Takes away (first + second) before now := by
  unfold Takes at *
  omega

theorem Takes.quiet {away span before now : Int} (takes : Takes away span before now)
    (present : away < before ∨ now ≤ away) : now ≤ before + span := by
  unfold Takes at takes
  omega

/-! Levels -/

section

variable {signal : Int → Bool} {level : Bool} {first stop : Int}

theorem Holds.left (holds : Holds signal level first stop) {time : Int} (since : first ≤ time)
    (other : signal time = !level) : stop ≤ time := by
  by_contra inside
  have same := holds time since (not_le.mp inside)
  rw [other] at same
  exact Bool.not_ne_self level same

theorem Holds.before (holds : Holds signal level first stop) {time : Int} (upTo : time < stop)
    (other : signal time = !level) : time < first := by
  by_contra inside
  have same := holds time (not_lt.mp inside) upTo
  rw [other] at same
  exact Bool.not_ne_self level same

end

/-! One wait -/

section

variable {signal : Int → Bool} {away gap timeout start now found last : Int} {level : Bool}
  {misses : List Int}

theorem Looks.finds (looks : Looks signal away gap level timeout start now misses found last)
    (inTime : InTime timeout start misses) :
    now ≤ found ∧ signal found = level ∧ Takes away gap found last := by
  induction looks with
  | found looks there reads => exact ⟨looks.1, there, reads⟩
  | missed looks absent reads early rest ih =>
      obtain ⟨later, there, reading⟩ := ih (fun miss member => inTime miss (.tail _ member))
      exact ⟨le_trans looks.1 (le_trans reads.1 later), there, reading⟩
  | expired looks absent reads late => exact absurd (inTime _ (.head _)) (not_lt.mpr late)

/-- A level that is there for the look that finds it was found soon after it came, or at the first
look. -/
theorem Looks.prompt (looks : Looks signal away gap level timeout start now misses found last)
    (inTime : InTime timeout start misses) (present : away < now ∨ last ≤ away) {edge stop : Int}
    (holds : Holds signal level edge stop) (inside : found < stop) :
    found ≤ now + gap ∨ found < edge + 2 * gap := by
  induction looks with
  | found looks there reads =>
      have ordered := reads.1
      exact .inl (looks.quiet (by omega))
  | @missed now look miss found last misses looks absent reads early rest ih =>
      have later : InTime timeout start misses := fun miss member => inTime miss (.tail _ member)
      obtain ⟨after, _, reading⟩ := rest.finds later
      have ends := reading.1
      have before := reads.1
      have began := looks.1
      have missedBefore := holds.before (by omega) absent
      have soon := reads.quiet (by omega)
      rcases ih later (by omega) inside with next | near
      · exact .inr (by omega)
      · exact .inr near
  | expired looks absent reads late => exact absurd (inTime _ (.head _)) (not_lt.mpr late)

/-- A task that is not preempted finds a level that comes before the timeout and stays. -/
theorem Looks.succeeds (looks : Looks signal away gap level timeout start now misses found last)
    (present : away < now) {first edge stop : Int} (waits : Holds signal (!level) first edge)
    (holds : Holds signal level edge stop) (begins : first ≤ now) (looked : now + gap < stop)
    (stays : edge + 2 * gap ≤ stop) (comes : edge + gap ≤ start + timeout) :
    InTime timeout start misses ∧ edge ≤ found ∧ found < stop := by
  induction looks with
  | found looks there reads =>
      have ordered := looks.1
      have soon := looks.quiet (.inl present)
      have come := waits.left (le_trans begins ordered) (there.trans (Bool.not_not _).symm)
      exact ⟨fun _ member => absurd member List.not_mem_nil, come, by omega⟩
  | missed looks absent reads early rest ih =>
      have ordered := looks.1
      have again := reads.1
      have soon := looks.quiet (.inl present)
      have read := reads.quiet (.inl (by omega))
      have missedBefore := holds.before (by omega) absent
      obtain ⟨inTime, come, inside⟩ := ih (by omega) (by omega) (by omega)
      refine ⟨?_, come, inside⟩
      intro miss member
      cases member with
      | head => exact early
      | tail _ member => exact inTime miss member
  | expired looks absent reads late =>
      have ordered := looks.1
      have soon := looks.quiet (.inl present)
      have read := reads.quiet (.inl (by omega))
      have missedBefore := holds.before (by omega) absent
      omega

end

end Firmware.Polling
