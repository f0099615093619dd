import Mathlib

/-! Millisecond counters that are kept modulo 2^32 and compared by unsigned subtraction. -/

namespace Firmware

/-- The low 32 bits of a millisecond count. -/
def stamp (ms : Nat) : UInt32 := UInt32.ofNat ms

theorem stamp_toNat {ms : Nat} (short : ms < 2 ^ 32) : (stamp ms).toNat = ms :=
  UInt32.toNat_ofNat_of_lt' short

theorem age_of_le {now seen : UInt32} (earlier : seen.toNat ≤ now.toNat) :
    (now - seen).toNat = now.toNat - seen.toNat := by
  have nowBound := now.toNat_lt
  have seenBound := seen.toNat_lt
  rw [UInt32.toNat_sub]
  omega

theorem age_of_lt {now seen : UInt32} (later : now.toNat < seen.toNat) :
    (now - seen).toNat = 2 ^ 32 - (seen.toNat - now.toNat) := by
  have nowBound := now.toNat_lt
  have seenBound := seen.toNat_lt
  rw [UInt32.toNat_sub]
  omega

theorem age_lt_iff_of_le {now seen timeout : UInt32} (earlier : seen.toNat ≤ now.toNat) :
    now - seen < timeout ↔ now.toNat < seen.toNat + timeout.toNat := by
  rw [UInt32.lt_iff_toNat_lt, age_of_le earlier]
  omega

theorem age_lt_iff_of_lt {now seen timeout : UInt32} (later : now.toNat < seen.toNat) :
    now - seen < timeout ↔ 2 ^ 32 < seen.toNat - now.toNat + timeout.toNat := by
  have seenBound := seen.toNat_lt
  rw [UInt32.lt_iff_toNat_lt, age_of_lt later]
  omega

theorem age_of_stamps {now seen : Nat} (earlier : seen ≤ now) :
    (stamp now - stamp seen).toNat = (now - seen) % 2 ^ 32 := by
  simp only [UInt32.toNat_sub, stamp, UInt32.toNat_ofNat']
  omega

theorem age_of_stamps_lt_iff {now seen : Nat} (earlier : seen ≤ now) (timeout : UInt32) :
    stamp now - stamp seen < timeout ↔ (now - seen) % 2 ^ 32 < timeout.toNat := by
  rw [UInt32.lt_iff_toNat_lt, age_of_stamps earlier]

end Firmware
