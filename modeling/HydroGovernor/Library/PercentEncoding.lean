import HydroGovernor.Library.Utf8

/-! Percent-encoding of URI components. -/

namespace Firmware.Uri

open Utf8 (Text)

def alphanumeric (byte : UInt8) : Bool :=
  (0x41 ≤ byte && byte ≤ 0x5A) || (0x61 ≤ byte && byte ≤ 0x7A) || (0x30 ≤ byte && byte ≤ 0x39)

/-- The marks - _ . ! ~ * ' ( ) -/
def marks : Bytes := [0x2D, 0x5F, 0x2E, 0x21, 0x7E, 0x2A, 0x27, 0x28, 0x29]

/-- The bytes that a component keeps as they are. -/
def unescaped (byte : UInt8) : Bool := alphanumeric byte || marks.contains byte

def percentSign : UInt8 := 0x25

def hexDigit (value : Nat) : UInt8 :=
  if value < 10 then UInt8.ofNat (0x30 + value) else UInt8.ofNat (0x37 + value)

def escapeByte (byte : UInt8) : Bytes :=
  [percentSign, hexDigit (byte.toNat / 16), hexDigit (byte.toNat % 16)]

def encodeChar (char : Char) : Bytes :=
  if char.toNat < 0x80 ∧ unescaped (UInt8.ofNat char.toNat) = true then
    [UInt8.ofNat char.toNat]
  else (String.utf8EncodeChar char).flatMap escapeByte

def encodeURIComponent (text : Text) : Bytes := text.flatMap encodeChar

/-- The same encoding, one byte of the UTF-8 text at a time. -/
def encodeByte (byte : UInt8) : Bytes := if unescaped byte then [byte] else escapeByte byte

theorem unescaped_ascii {byte : UInt8} (kept : unescaped byte = true) : byte.toNat < 0x80 := by
  rw [unescaped, Bool.or_eq_true] at kept
  rcases kept with word | mark
  · simp only [alphanumeric, Bool.or_eq_true, Bool.and_eq_true, decide_eq_true_eq] at word
    rcases word with (⟨_, upper⟩ | ⟨_, lower⟩) | ⟨_, digit⟩
    · exact Nat.lt_of_le_of_lt (UInt8.le_iff_toNat_le.mp upper) (by decide)
    · exact Nat.lt_of_le_of_lt (UInt8.le_iff_toNat_le.mp lower) (by decide)
    · exact Nat.lt_of_le_of_lt (UInt8.le_iff_toNat_le.mp digit) (by decide)
  · have isAscii : ∀ mark ∈ marks, mark.toNat < 0x80 := by simp [marks]
    exact isAscii byte (List.contains_iff_mem.mp mark)

theorem encodeChar_bytes (char : Char) :
    encodeChar char = (String.utf8EncodeChar char).flatMap encodeByte := by
  by_cases ascii : char.toNat < 0x80
  · rw [encodeChar, Utf8.encode_ascii ascii, List.flatMap_singleton, List.flatMap_singleton,
      encodeByte]
    by_cases kept : unescaped (UInt8.ofNat char.toNat) = true
    · rw [if_pos ⟨ascii, kept⟩, if_pos kept]
    · rw [if_neg (fun both => kept both.2), if_neg kept]
  · rw [encodeChar, if_neg (fun both => ascii both.1)]
    have wide := Utf8.encode_wide (Nat.le_of_not_lt ascii)
    apply List.flatMap_congr
    intro byte member
    have escaped : ¬ unescaped byte = true := by
      intro kept
      exact absurd (unescaped_ascii kept) (Nat.not_lt.mpr (wide byte member))
    rw [encodeByte, if_neg escaped]

theorem encodeURIComponent_bytes (text : Text) :
    encodeURIComponent text = (Utf8.encode text).flatMap encodeByte := by
  induction text with
  | nil => rfl
  | cons char text ih =>
      calc
        encodeURIComponent (char :: text) = encodeChar char ++ encodeURIComponent text := by
          simp [encodeURIComponent]
        _ = (String.utf8EncodeChar char ++ Utf8.encode text).flatMap encodeByte := by
          rw [encodeChar_bytes, ih, List.flatMap_append]
        _ = (Utf8.encode (char :: text)).flatMap encodeByte := by rw [Utf8.encode_cons]

theorem hexDigit_unescaped : ∀ value < 16, unescaped (hexDigit value) = true := by decide

theorem encodeByte_safe (byte : UInt8) :
    ∀ code ∈ encodeByte byte, code = percentSign ∨ unescaped code = true := by
  intro code member
  have bound := byte.toNat_lt
  by_cases kept : unescaped byte = true
  · rw [encodeByte, if_pos kept, List.mem_singleton] at member
    exact Or.inr (member ▸ kept)
  · rw [encodeByte, if_neg kept] at member
    simp only [escapeByte, List.mem_cons, List.not_mem_nil, or_false] at member
    rcases member with rfl | rfl | rfl
    · exact Or.inl rfl
    · exact Or.inr (hexDigit_unescaped _ (by omega))
    · exact Or.inr (hexDigit_unescaped _ (by omega))

theorem encoded_safe (bytes : Bytes) :
    ∀ code ∈ bytes.flatMap encodeByte, code = percentSign ∨ unescaped code = true := by
  intro code member
  obtain ⟨byte, _, inside⟩ := List.mem_flatMap.mp member
  exact encodeByte_safe byte code inside

theorem encoded_ne {bytes : Bytes} {code other : UInt8} (member : code ∈ bytes.flatMap encodeByte)
    (notPercent : other ≠ percentSign) (notKept : unescaped other = false) : code ≠ other := by
  rintro rfl
  rcases encoded_safe bytes code member with percent | kept
  · exact notPercent percent
  · rw [notKept] at kept
    cases kept

theorem encodeByte_length_le (byte : UInt8) : (encodeByte byte).length ≤ 3 := by
  unfold encodeByte
  split
  · exact Nat.le_add_left 1 2
  · exact le_refl 3

theorem encoded_length_le (bytes : Bytes) :
    (bytes.flatMap encodeByte).length ≤ 3 * bytes.length := by
  induction bytes with
  | nil => exact le_refl 0
  | cons byte bytes ih =>
      have one := encodeByte_length_le byte
      rw [List.flatMap_cons, List.length_append, List.length_cons]
      omega

end Firmware.Uri
