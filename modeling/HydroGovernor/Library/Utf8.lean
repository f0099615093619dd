import HydroGovernor.Library.CString

/-! UTF-8: the encoder of a text, and the decoder that replaces what is malformed, as text
fetched over HTTP is read. -/

namespace Firmware.Utf8

/-- A text is a list of Unicode scalar values. -/
abbrev Text := List Char

def encode (text : Text) : Bytes := text.flatMap String.utf8EncodeChar

def replacement : Char := Char.ofNat 0xFFFD

def Multibyte (codePoint : Nat) : Prop :=
  0x80 ≤ codePoint ∧ (codePoint < 0xD800 ∨ (0xDFFF < codePoint ∧ codePoint < 0x110000))

/-- However a sequence goes on inside its bounds, a scalar value comes of it. `more` is the
number of bytes owed after the next one. -/
def Completes : Nat → Nat → Nat → Nat → Prop
  | 0, codePoint, lower, upper =>
      0x80 ≤ lower ∧
        ∀ byte, lower ≤ byte → byte ≤ upper → Multibyte (codePoint * 64 + byte % 64)
  | more + 1, codePoint, lower, upper =>
      0x80 ≤ lower ∧
        ∀ byte, lower ≤ byte → byte ≤ upper →
          Completes more (codePoint * 64 + byte % 64) 0x80 0xBF

theorem Completes.high {more codePoint lower upper : Nat}
    (completes : Completes more codePoint lower upper) : 0x80 ≤ lower := by
  cases more with
  | zero => exact completes.1
  | succ more => exact completes.1

/-- Where the decoder is between two bytes. -/
inductive Decoder where
  | start
  | owed (more codePoint lower upper : Nat) (completes : Completes more codePoint lower upper)

theorem completes_two {first : Nat} (low : 0xC2 ≤ first) (high : first ≤ 0xDF) :
    Completes 0 (first % 32) 0x80 0xBF := by
  refine ⟨le_refl _, ?_⟩
  intro byte above below
  constructor <;> omega

theorem second_bounds {first raised lowered low high second : Nat}
    (above : (if first = raised then low else 0x80) ≤ second)
    (below : second ≤ if first = lowered then high else 0xBF) :
    (if first = raised then low ≤ second else 0x80 ≤ second) ∧
      (if first = lowered then second ≤ high else second ≤ 0xBF) := by
  constructor
  · split <;> simp_all
  · split <;> simp_all

theorem completes_three {first : Nat} (low : 0xE0 ≤ first) (high : first ≤ 0xEF) :
    Completes 1 (first % 16) (if first = 0xE0 then 0xA0 else 0x80)
      (if first = 0xED then 0x9F else 0xBF) := by
  refine ⟨by split <;> omega, ?_⟩
  intro second above below
  obtain ⟨least, most⟩ := second_bounds above below
  refine ⟨le_refl _, ?_⟩
  intro third thirdAbove thirdBelow
  constructor
  · split at least <;> split at most <;> omega
  · split at least <;> split at most <;> omega

theorem completes_four {first : Nat} (low : 0xF0 ≤ first) (high : first ≤ 0xF4) :
    Completes 2 (first % 8) (if first = 0xF0 then 0x90 else 0x80)
      (if first = 0xF4 then 0x8F else 0xBF) := by
  refine ⟨by split <;> omega, ?_⟩
  intro second above below
  obtain ⟨least, most⟩ := second_bounds above below
  refine ⟨le_refl _, ?_⟩
  intro third thirdAbove thirdBelow
  refine ⟨le_refl _, ?_⟩
  intro fourth fourthAbove fourthBelow
  constructor
  · split at least <;> split at most <;> omega
  · split at least <;> split at most <;> omega

/-- The first byte of a sequence: what it gives at once, and where it leaves the decoder. -/
def lead (first : Nat) : Text × Decoder :=
  if first < 0x80 then ([Char.ofNat first], .start)
  else if two : 0xC2 ≤ first ∧ first ≤ 0xDF then
    ([], .owed 0 _ _ _ (completes_two two.1 two.2))
  else if three : 0xE0 ≤ first ∧ first ≤ 0xEF then
    ([], .owed 1 _ _ _ (completes_three three.1 three.2))
  else if four : 0xF0 ≤ first ∧ first ≤ 0xF4 then
    ([], .owed 2 _ _ _ (completes_four four.1 four.2))
  else ([replacement], .start)

/-- A byte out of bounds ends the sequence with a replacement and is read again. -/
def next : Decoder → Nat → Text × Decoder
  | .start, byte => lead byte
  | .owed 0 codePoint lower upper _, byte =>
      if lower ≤ byte ∧ byte ≤ upper then ([Char.ofNat (codePoint * 64 + byte % 64)], .start)
      else (replacement :: (lead byte).1, (lead byte).2)
  | .owed (_ + 1) codePoint lower upper completes, byte =>
      if inside : lower ≤ byte ∧ byte ≤ upper then
        ([], .owed _ (codePoint * 64 + byte % 64) 0x80 0xBF
          (completes.2 byte inside.1 inside.2))
      else (replacement :: (lead byte).1, (lead byte).2)

def decodeFrom : Decoder → Bytes → Text
  | .start, [] => []
  | .owed .., [] => [replacement]
  | decoder, byte :: rest =>
      (next decoder byte.toNat).1 ++ decodeFrom (next decoder byte.toNat).2 rest

def decode (bytes : Bytes) : Text := decodeFrom .start bytes

theorem decodeFrom_cons (decoder : Decoder) (byte : UInt8) (rest : Bytes) :
    decodeFrom decoder (byte :: rest) =
      (next decoder byte.toNat).1 ++ decodeFrom (next decoder byte.toNat).2 rest := by
  cases decoder <;> rfl

theorem lead_ascii {first : Nat} (ascii : first < 0x80) :
    lead first = ([Char.ofNat first], .start) := by
  simp [lead, ascii]

theorem lead_two {first : Nat} (low : 0xC2 ≤ first) (high : first ≤ 0xDF) :
    lead first = ([], .owed 0 _ _ _ (completes_two low high)) := by
  have wide : ¬ first < 0x80 := by omega
  simp only [lead, wide, if_false, low, high, and_self, dif_pos]

theorem lead_three {first : Nat} (low : 0xE0 ≤ first) (high : first ≤ 0xEF) :
    lead first = ([], .owed 1 _ _ _ (completes_three low high)) := by
  have wide : ¬ first < 0x80 := by omega
  have notTwo : ¬(0xC2 ≤ first ∧ first ≤ 0xDF) := by omega
  simp only [lead, wide, if_false, notTwo, low, high, and_self, dif_pos, dif_neg,
    not_false_eq_true]

theorem lead_four {first : Nat} (low : 0xF0 ≤ first) (high : first ≤ 0xF4) :
    lead first = ([], .owed 2 _ _ _ (completes_four low high)) := by
  have wide : ¬ first < 0x80 := by omega
  have notTwo : ¬(0xC2 ≤ first ∧ first ≤ 0xDF) := by omega
  have notThree : ¬(0xE0 ≤ first ∧ first ≤ 0xEF) := by omega
  simp only [lead, wide, if_false, notTwo, notThree, low, high, and_self, dif_pos, dif_neg,
    not_false_eq_true]

theorem decodeFrom_last {codePoint lower upper : Nat}
    {completes : Completes 0 codePoint lower upper} {byte : UInt8}
    (inside : lower ≤ byte.toNat ∧ byte.toNat ≤ upper) (rest : Bytes) :
    decodeFrom (.owed 0 codePoint lower upper completes) (byte :: rest) =
      Char.ofNat (codePoint * 64 + byte.toNat % 64) :: decode rest := by
  rw [decodeFrom_cons, next, if_pos inside]
  rfl

theorem decodeFrom_more {more codePoint lower upper : Nat}
    {completes : Completes (more + 1) codePoint lower upper} {byte : UInt8}
    (inside : lower ≤ byte.toNat ∧ byte.toNat ≤ upper) (rest : Bytes) :
    decodeFrom (.owed (more + 1) codePoint lower upper completes) (byte :: rest) =
      decodeFrom (.owed more (codePoint * 64 + byte.toNat % 64) 0x80 0xBF
        (completes.2 byte.toNat inside.1 inside.2)) rest := by
  rw [decodeFrom_cons, next, dif_pos inside]
  rfl

theorem next_ascii {more codePoint lower upper byte : Nat}
    {completes : Completes more codePoint lower upper} (ascii : byte < 0x80) :
    next (.owed more codePoint lower upper completes) byte =
      ([replacement, Char.ofNat byte], .start) := by
  have outside : ¬(lower ≤ byte ∧ byte ≤ upper) := by
    have high := completes.high
    omega
  cases more with
  | zero => simp [next, outside, lead_ascii ascii]
  | succ more => simp [next, outside, lead_ascii ascii]

theorem decodeFrom_append_ascii {byte : UInt8} (ascii : byte.toNat < 0x80) (rest : Bytes)
    (decoder : Decoder) (front : Bytes) :
    decodeFrom decoder (front ++ byte :: rest) =
      decodeFrom decoder front ++ Char.ofNat byte.toNat :: decode rest := by
  induction front generalizing decoder with
  | nil =>
      rw [List.nil_append, decodeFrom_cons]
      cases decoder with
      | start =>
          rw [next, lead_ascii ascii]
          rfl
      | owed more codePoint lower upper completes =>
          rw [next_ascii ascii]
          rfl
  | cons first front ih =>
      rw [List.cons_append, decodeFrom_cons, decodeFrom_cons, ih, List.append_assoc]

theorem decode_cons_ascii {byte : UInt8} (ascii : byte.toNat < 0x80) (rest : Bytes) :
    decode (byte :: rest) = Char.ofNat byte.toNat :: decode rest :=
  decodeFrom_append_ascii ascii rest .start []

theorem toNat_multibyte {codePoint : Nat} (multibyte : Multibyte codePoint) :
    (Char.ofNat codePoint).toNat = codePoint := by
  rw [Char.toNat_ofNat, if_pos multibyte.2]

/-- A step gives the byte itself, if it is ASCII, and otherwise no ASCII character. -/
theorem next_chars (decoder : Decoder) (byte : Nat) :
    ∀ char ∈ (next decoder byte).1, char.toNat = byte ∨ 0x80 ≤ char.toNat := by
  have ofLead : ∀ char ∈ (lead byte).1, char.toNat = byte ∨ 0x80 ≤ char.toNat := by
    intro char member
    unfold lead at member
    split at member
    · rename_i ascii
      rw [List.mem_singleton] at member
      rw [member, Char.toNat_ofNat, if_pos (by left; omega)]
      exact Or.inl rfl
    · split at member
      · cases member
      split at member
      · cases member
      split at member
      · cases member
      · rw [List.mem_singleton] at member
        rw [member]
        exact Or.inr (by decide)
  have replaced : ∀ char ∈ replacement :: (lead byte).1,
      char.toNat = byte ∨ 0x80 ≤ char.toNat := by
    intro char member
    rcases List.mem_cons.mp member with rfl | later
    · exact Or.inr (by decide)
    · exact ofLead char later
  intro char member
  cases decoder with
  | start => exact ofLead char member
  | owed more codePoint lower upper completes =>
      cases more with
      | zero =>
          rw [next] at member
          split at member
          · rename_i inside
            have multibyte := completes.2 byte inside.1 inside.2
            rw [List.mem_singleton] at member
            rw [member, toNat_multibyte multibyte]
            exact Or.inr multibyte.1
          · exact replaced char member
      | succ more =>
          rw [next] at member
          split at member
          · cases member
          · exact replaced char member

theorem encode_cons (char : Char) (text : Text) :
    encode (char :: text) = String.utf8EncodeChar char ++ encode text := by
  simp [encode]

theorem scalar_bounds (char : Char) :
    char.toNat < 0xD800 ∨ (0xDFFF < char.toNat ∧ char.toNat < 0x110000) := char.valid

theorem toNat_ofNat_small {value : Nat} (small : value < 256) :
    (UInt8.ofNat value).toNat = value := by
  simp only [UInt8.toNat_ofNat']
  omega

theorem encode_ascii {char : Char} (ascii : char.toNat < 0x80) :
    String.utf8EncodeChar char = [UInt8.ofNat char.toNat] := by
  have small : char.val.toNat ≤ 0x7F := Nat.le_of_lt_succ ascii
  rw [String.utf8EncodeChar]
  exact if_pos small

/-- Every other character is encoded without ASCII bytes. -/
theorem encode_wide {char : Char} (wide : 0x80 ≤ char.toNat) :
    ∀ byte ∈ String.utf8EncodeChar char, 0x80 ≤ byte.toNat := by
  have value : char.val.toNat = char.toNat := rfl
  have bounds := scalar_bounds char
  have high (part : Nat) (low : part < 0x80) : 0x80 ≤ (UInt8.ofNat (part + 0x80)).toNat := by
    rw [toNat_ofNat_small (by omega)]
    omega
  intro byte member
  rw [String.utf8EncodeChar, value, if_neg (by omega)] at member
  split at member
  · simp only [List.mem_cons, List.not_mem_nil, or_false] at member
    rcases member with rfl | rfl
    · exact high (char.toNat / 64 % 32 + 0x40) (by omega)
    · exact high _ (by omega)
  split at member
  · simp only [List.mem_cons, List.not_mem_nil, or_false] at member
    rcases member with rfl | rfl | rfl
    · exact high (char.toNat / 4096 % 16 + 0x60) (by omega)
    · exact high _ (by omega)
    · exact high _ (by omega)
  · simp only [List.mem_cons, List.not_mem_nil, or_false] at member
    rcases member with rfl | rfl | rfl | rfl
    · exact high (char.toNat / 262144 % 8 + 0x70) (by omega)
    · exact high _ (by omega)
    · exact high _ (by omega)
    · exact high _ (by omega)

def Continues (byte : UInt8) : Prop := 0x80 ≤ byte.toNat ∧ byte.toNat ≤ 0xBF

theorem decode_two {first second : UInt8} (low : 0xC2 ≤ first.toNat) (high : first.toNat ≤ 0xDF)
    (inside : Continues second) (rest : Bytes) :
    decode (first :: second :: rest) =
      Char.ofNat (first.toNat % 32 * 64 + second.toNat % 64) :: decode rest := by
  rw [decode, decodeFrom_cons, next, lead_two low high, List.nil_append, decodeFrom_last inside]

theorem decode_three {first second third : UInt8} (low : 0xE0 ≤ first.toNat)
    (high : first.toNat ≤ 0xEF)
    (inside : (if first.toNat = 0xE0 then 0xA0 else 0x80) ≤ second.toNat ∧
      second.toNat ≤ if first.toNat = 0xED then 0x9F else 0xBF)
    (thirdInside : Continues third) (rest : Bytes) :
    decode (first :: second :: third :: rest) =
      Char.ofNat ((first.toNat % 16 * 64 + second.toNat % 64) * 64 + third.toNat % 64) ::
        decode rest := by
  rw [decode, decodeFrom_cons, next, lead_three low high, List.nil_append,
    decodeFrom_more inside, decodeFrom_last thirdInside]

theorem decode_four {first second third fourth : UInt8} (low : 0xF0 ≤ first.toNat)
    (high : first.toNat ≤ 0xF4)
    (inside : (if first.toNat = 0xF0 then 0x90 else 0x80) ≤ second.toNat ∧
      second.toNat ≤ if first.toNat = 0xF4 then 0x8F else 0xBF)
    (thirdInside : Continues third) (fourthInside : Continues fourth) (rest : Bytes) :
    decode (first :: second :: third :: fourth :: rest) =
      Char.ofNat (((first.toNat % 8 * 64 + second.toNat % 64) * 64 + third.toNat % 64) * 64 +
        fourth.toNat % 64) :: decode rest := by
  rw [decode, decodeFrom_cons, next, lead_four low high, List.nil_append,
    decodeFrom_more inside, decodeFrom_more thirdInside, decodeFrom_last fourthInside]

theorem continues_ofNat {bits : Nat} (small : bits < 64) :
    Continues (UInt8.ofNat (bits + 0x80)) := by
  constructor <;> rw [toNat_ofNat_small (by omega)] <;> omega

/-- The decoder reads the encoding of a character as that character. -/
theorem decode_char (char : Char) (rest : Bytes) :
    decode (String.utf8EncodeChar char ++ rest) = char :: decode rest := by
  have bounds := scalar_bounds char
  have value : char.val.toNat = char.toNat := rfl
  have same {codePoint : Nat} (equal : codePoint = char.toNat) : Char.ofNat codePoint = char := by
    rw [equal, Char.ofNat_toNat]
  have bits (part : Nat) : (UInt8.ofNat (part % 64 + 0x80)).toNat = part % 64 + 0x80 :=
    toNat_ofNat_small (by omega)
  rw [String.utf8EncodeChar, value]
  split
  · rw [List.singleton_append, decode_cons_ascii (by rw [toNat_ofNat_small] <;> omega),
      toNat_ofNat_small (by omega), same rfl]
  split
  · have first : (UInt8.ofNat (char.toNat / 64 % 32 + 0xC0)).toNat =
        char.toNat / 64 % 32 + 0xC0 := toNat_ofNat_small (by omega)
    rw [List.cons_append, List.cons_append, List.nil_append, decode_two (by omega) (by omega)
      (continues_ofNat (by omega)), same (by rw [first, bits]; omega)]
  split
  · have first : (UInt8.ofNat (char.toNat / 4096 % 16 + 0xE0)).toNat =
        char.toNat / 4096 % 16 + 0xE0 := toNat_ofNat_small (by omega)
    have inside : (if char.toNat / 4096 % 16 + 0xE0 = 0xE0 then 0xA0 else 0x80) ≤
          char.toNat / 64 % 64 + 0x80 ∧
        char.toNat / 64 % 64 + 0x80 ≤
          if char.toNat / 4096 % 16 + 0xE0 = 0xED then 0x9F else 0xBF := by
      constructor <;> split <;> omega
    rw [List.cons_append, List.cons_append, List.cons_append, List.nil_append,
      decode_three (by omega) (by omega) (by rw [first, bits]; exact inside)
        (continues_ofNat (by omega)), same (by rw [first, bits, bits]; omega)]
  · have first : (UInt8.ofNat (char.toNat / 262144 % 8 + 0xF0)).toNat =
        char.toNat / 262144 % 8 + 0xF0 := toNat_ofNat_small (by omega)
    have inside : (if char.toNat / 262144 % 8 + 0xF0 = 0xF0 then 0x90 else 0x80) ≤
          char.toNat / 4096 % 64 + 0x80 ∧
        char.toNat / 4096 % 64 + 0x80 ≤
          if char.toNat / 262144 % 8 + 0xF0 = 0xF4 then 0x8F else 0xBF := by
      constructor <;> split <;> omega
    rw [List.cons_append, List.cons_append, List.cons_append, List.cons_append, List.nil_append,
      decode_four (by omega) (by omega) (by rw [first, bits]; exact inside)
        (continues_ofNat (by omega)) (continues_ofNat (by omega)),
      same (by rw [first, bits, bits, bits]; omega)]

theorem decode_encode_append (text : Text) (rest : Bytes) :
    decode (encode text ++ rest) = text ++ decode rest := by
  induction text with
  | nil => rfl
  | cons char text ih =>
      rw [encode_cons, List.append_assoc, decode_char, ih, List.cons_append]

theorem decode_encode (text : Text) : decode (encode text) = text := by
  have whole := decode_encode_append text []
  rwa [List.append_nil, show decode [] = [] from rfl, List.append_nil] at whole

end Firmware.Utf8
