import Mathlib

/-! C strings, fixed-size character arrays and bounded text buffers. -/

namespace Firmware

abbrev Bytes := List UInt8

def ascii (text : String) : Bytes := text.toList.map (fun char => UInt8.ofNat char.toNat)

/-- The bytes of a C string before its terminator. -/
structure CString where
  bytes : Bytes
  noNul : bytes.all (· != 0) = true
  deriving DecidableEq, Repr

namespace CString

@[ext] theorem ext {left right : CString} (same : left.bytes = right.bytes) : left = right := by
  cases left
  cases right
  cases same
  rfl

def empty : CString := ⟨[], rfl⟩

def length (text : CString) : Nat := text.bytes.length

/-- The string that a buffer holds: everything before its first NUL. -/
def ofBuffer (buffer : Bytes) : CString :=
  ⟨buffer.takeWhile (· != 0), List.all_takeWhile⟩

/-- The string left by `strncpy(dst, src, n); dst[n] = 0`. -/
def take (count : Nat) (text : CString) : CString :=
  ⟨text.bytes.take count, by
    have noNul := text.noNul
    rw [List.all_eq_true] at noNul ⊢
    intro byte member
    exact noNul byte (List.mem_of_mem_take member)⟩

@[simp] theorem empty_bytes : empty.bytes = [] := rfl

@[simp] theorem take_bytes (count : Nat) (text : CString) :
    (take count text).bytes = text.bytes.take count := rfl

theorem take_length_le (count : Nat) (text : CString) : (take count text).length ≤ count := by
  simp [length, take]

theorem take_of_length_le {count : Nat} {text : CString} (short : text.length ≤ count) :
    take count text = text :=
  CString.ext (List.take_of_length_le short)

theorem ofBuffer_bytes (text : CString) : ofBuffer text.bytes = text := by
  apply CString.ext
  exact List.takeWhile_eq_self_iff.mpr (List.all_eq_true.mp text.noNul)

theorem ofBuffer_nul (text rest : Bytes) : ofBuffer (text ++ 0 :: rest) = ofBuffer text := by
  apply CString.ext
  show (text ++ 0 :: rest).takeWhile (· != 0) = text.takeWhile (· != 0)
  rw [List.takeWhile_append]
  split
  · rename_i whole
    rw [List.takeWhile_cons_of_neg (by decide), List.append_nil]
    exact ((List.takeWhile_prefix _).eq_of_length whole).symm
  · rfl

theorem ofBuffer_append_nul (text : CString) (rest : Bytes) :
    ofBuffer (text.bytes ++ 0 :: rest) = text := by
  rw [ofBuffer_nul, ofBuffer_bytes]

end CString

/-- A character array of a fixed size, with no terminator promised. -/
structure CField (size : Nat) where
  bytes : Bytes
  sized : bytes.length = size
  deriving DecidableEq, Repr

namespace CField

/-- `strncpy` of at most `count` bytes into a zeroed array. -/
def strncpy (size count : Nat) (text : CString) : CField size :=
  ⟨((text.bytes.take count) ++ List.replicate size 0).take size, by simp⟩

/-- What a reader sees that stops at the first NUL or at the end of the array. -/
def value {size : Nat} (field : CField size) : CString := CString.ofBuffer field.bytes

theorem strncpy_value {size count : Nat} (text : CString) (room : count ≤ size) :
    (strncpy size count text).value = CString.take count text := by
  let copied := CString.take count text
  have short : copied.bytes.length ≤ size := by
    have bound : copied.bytes.length ≤ count := CString.take_length_le count text
    omega
  have layout : (strncpy size count text).bytes =
      copied.bytes ++ List.replicate (size - copied.bytes.length) 0 := by
    simp only [strncpy, List.take_append, List.take_replicate, copied, CString.take_bytes]
    rw [List.take_of_length_le (by simpa [copied] using short)]
    congr 2
    omega
  rw [value, layout]
  cases gap : size - copied.bytes.length with
  | zero => simpa using CString.ofBuffer_bytes copied
  | succ rest => simpa [List.replicate_succ] using CString.ofBuffer_append_nul copied _

/-- `snprintf(dst + pos, size - pos, …)` of a text without NUL. -/
def snprintf {size : Nat} (field : CField size) (pos : Nat) (piece : Bytes) : CField size :=
  if room : pos < size then
    ⟨field.bytes.take pos ++ (piece.take (size - 1 - pos) ++
        0 :: field.bytes.drop (pos + (piece.take (size - 1 - pos)).length + 1)), by
      have sized := field.sized
      simp only [List.length_append, List.length_take, List.length_cons, List.length_drop, sized]
      omega⟩
  else field

/-- The array starts with the text and a NUL. -/
def Holds {size : Nat} (field : CField size) (text : Bytes) : Prop :=
  ∃ rest, field.bytes = text ++ 0 :: rest

theorem Holds.value {size : Nat} {field : CField size} {text : Bytes} (holds : field.Holds text)
    (noNul : text.all (· != 0) = true) : field.value.bytes = text := by
  obtain ⟨rest, layout⟩ := holds
  rw [CField.value, layout]
  exact congrArg CString.bytes (CString.ofBuffer_append_nul ⟨text, noNul⟩ rest)

theorem holds_strncpy {size : Nat} {text : CString} (fits : text.length < size) :
    (strncpy size size text).Holds text.bytes := by
  have short : text.bytes.length ≤ size := Nat.le_of_lt fits
  have padding : size - text.bytes.length = (size - text.bytes.length - 1) + 1 := by
    simp only [CString.length] at fits
    omega
  have layout : (strncpy size size text).bytes =
      text.bytes ++ List.replicate (size - text.bytes.length) 0 := by
    simp [strncpy, List.take_append, List.take_of_length_le short, List.take_replicate]
  refine ⟨List.replicate (size - text.bytes.length - 1) 0, ?_⟩
  rw [layout, padding, List.replicate_succ, Nat.add_sub_cancel]

theorem holds_snprintf {size : Nat} {field : CField size} {text piece : Bytes}
    (starts : field.bytes.take text.length = text)
    (fits : text.length + piece.length < size) :
    (field.snprintf text.length piece).Holds (text ++ piece) := by
  have whole : piece.take (size - 1 - text.length) = piece :=
    List.take_of_length_le (by omega)
  refine ⟨field.bytes.drop (text.length + piece.length + 1), ?_⟩
  rw [snprintf, dif_pos (by omega)]
  simp only [whole, starts, List.append_assoc]

theorem Holds.starts {size : Nat} {field : CField size} {text : Bytes}
    (holds : field.Holds text) : field.bytes.take text.length = text := by
  obtain ⟨rest, layout⟩ := holds
  rw [layout, List.take_left]

end CField

/-- A text under construction by `pos += snprintf(buf + pos, size - pos, …)`. The flag
records whether every call was given an offset inside the buffer. -/
structure TextBuffer where
  text : Bytes
  pos : Nat
  inside : Bool
  deriving DecidableEq, Repr

namespace TextBuffer

def blank : TextBuffer := ⟨[], 0, true⟩

/-- One `snprintf` at the current offset: the text is cut to the room that is left, and
the offset moves by the length that was wanted. -/
def append (size : Nat) (buffer : TextBuffer) (piece : Bytes) : TextBuffer where
  text := if buffer.pos < size then (buffer.text.take buffer.pos ++ piece).take (size - 1)
    else buffer.text
  pos := buffer.pos + piece.length
  inside := buffer.inside && decide (buffer.pos < size)

/-- Nothing was cut so far: the offset is the length of the text and lies in the buffer. -/
structure Exact (size : Nat) (buffer : TextBuffer) : Prop where
  pos_eq : buffer.pos = buffer.text.length
  pos_lt : buffer.pos < size
  inside : buffer.inside = true

theorem append_text {size : Nat} {buffer : TextBuffer} {piece : Bytes}
    (soFar : Exact size buffer) (fits : buffer.text.length + piece.length < size) :
    (append size buffer piece).text = buffer.text ++ piece := by
  rw [append, if_pos soFar.pos_lt, soFar.pos_eq, List.take_length]
  apply List.take_of_length_le
  simp only [List.length_append]
  omega

theorem append_exact {size : Nat} {buffer : TextBuffer} {piece : Bytes}
    (soFar : Exact size buffer) (fits : buffer.text.length + piece.length < size) :
    Exact size (append size buffer piece) where
  pos_eq := by
    rw [append_text soFar fits, List.length_append, ← soFar.pos_eq]
    rfl
  pos_lt := by
    have start := soFar.pos_eq
    simp only [append]
    omega
  inside := by simp [append, soFar.inside, soFar.pos_lt]

end TextBuffer

end Firmware
