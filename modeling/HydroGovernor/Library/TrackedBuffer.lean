import HydroGovernor.Library.CString

/-! Fixed-size byte arrays that remember which of their cells were read and written. -/

namespace Firmware

structure TrackedBuffer where
  cells : Bytes
  reads : List Nat
  writes : List Nat
  deriving DecidableEq, Repr

namespace TrackedBuffer

def ofCells (cells : Bytes) : TrackedBuffer := ⟨cells, [], []⟩

def zeroed (size : Nat) : TrackedBuffer := ofCells (List.replicate size 0)

/-- Read `count` cells from `offset` on. A cell outside the array reads as zero. -/
def load (buffer : TrackedBuffer) (offset count : Nat) : Bytes × TrackedBuffer :=
  ((List.range' offset count).map (fun index => buffer.cells.getD index 0),
    { buffer with reads := buffer.reads ++ List.range' offset count })

/-- Write the bytes one after the other from `offset` on. A write outside the array
changes no cell. -/
def store (buffer : TrackedBuffer) (offset : Nat) : Bytes → TrackedBuffer
  | [] => buffer
  | byte :: rest =>
      store { buffer with
        cells := buffer.cells.set offset byte
        writes := buffer.writes ++ [offset] } (offset + 1) rest

/-- `snprintf` of a text into the first `size` cells, cut to the room before the NUL. -/
def snprintf (buffer : TrackedBuffer) (size : Nat) (text : Bytes) : TrackedBuffer :=
  if size = 0 then buffer else buffer.store 0 (text.take (size - 1) ++ [0])

def forget (buffer : TrackedBuffer) : TrackedBuffer := ofCells buffer.cells

@[simp] theorem load_reads (buffer : TrackedBuffer) (offset count : Nat) :
    (buffer.load offset count).2.reads = buffer.reads ++ List.range' offset count := rfl

@[simp] theorem load_length (buffer : TrackedBuffer) (offset count : Nat) :
    (buffer.load offset count).1.length = count := by
  simp [load]

theorem load_inside {buffer : TrackedBuffer} {offset count : Nat}
    (inside : offset + count ≤ buffer.cells.length) :
    (buffer.load offset count).1 = (buffer.cells.drop offset).take count := by
  apply List.ext_getElem
  · simp only [load, List.length_map, List.length_range', List.length_take, List.length_drop]
    omega
  · intro index left right
    have bound : offset + index < buffer.cells.length := by
      simp only [load, List.length_map, List.length_range'] at left
      omega
    simp [load, bound]

@[simp] theorem store_reads (buffer : TrackedBuffer) (offset : Nat) (bytes : Bytes) :
    (buffer.store offset bytes).reads = buffer.reads := by
  induction bytes generalizing buffer offset with
  | nil => rfl
  | cons byte rest ih => rw [store, ih]

@[simp] theorem store_writes (buffer : TrackedBuffer) (offset : Nat) (bytes : Bytes) :
    (buffer.store offset bytes).writes =
      buffer.writes ++ List.range' offset bytes.length := by
  induction bytes generalizing buffer offset with
  | nil => simp [store]
  | cons byte rest ih => rw [store, ih, List.length_cons, List.range'_succ, List.append_assoc]; rfl

@[simp] theorem store_length (buffer : TrackedBuffer) (offset : Nat) (bytes : Bytes) :
    (buffer.store offset bytes).cells.length = buffer.cells.length := by
  induction bytes generalizing buffer offset with
  | nil => rfl
  | cons byte rest ih => rw [store, ih, List.length_set]

/-- What stood in front and behind stays. -/
theorem store_cells {buffer : TrackedBuffer} {offset : Nat} {bytes : Bytes}
    (fits : offset + bytes.length ≤ buffer.cells.length) :
    (buffer.store offset bytes).cells =
      buffer.cells.take offset ++ bytes ++ buffer.cells.drop (offset + bytes.length) := by
  induction bytes generalizing buffer offset with
  | nil => simp [store]
  | cons byte rest ih =>
      rw [List.length_cons] at fits
      rw [store, ih (by rw [List.length_set]; omega), List.length_cons]
      have front : (buffer.cells.set offset byte).take (offset + 1) =
          buffer.cells.take offset ++ [byte] := by
        rw [List.take_succ_eq_append_getElem (by rw [List.length_set]; omega),
          List.take_set_of_le le_rfl, List.getElem_set_self]
      have back : (buffer.cells.set offset byte).drop (offset + 1 + rest.length) =
          buffer.cells.drop (offset + (rest.length + 1)) := by
        rw [List.drop_set_of_lt (by omega)]
        congr 1
        omega
      rw [front, back, List.append_assoc, List.append_assoc, List.append_assoc,
        List.singleton_append, List.cons_append]

theorem zeroed_store {size : Nat} {bytes : Bytes} (fits : bytes.length < size) :
    CString.ofBuffer ((zeroed size).store 0 bytes).cells = CString.ofBuffer bytes := by
  have sized : (zeroed size).cells.length = size := List.length_replicate
  obtain ⟨rest, behind⟩ : ∃ rest, size - bytes.length = rest + 1 :=
    ⟨size - bytes.length - 1, by omega⟩
  rw [store_cells (by omega), zeroed, ofCells, List.take_zero, List.nil_append, Nat.zero_add,
    List.drop_replicate, behind, List.replicate_succ, CString.ofBuffer_nul]

theorem stored_text {buffer : TrackedBuffer} {text : Bytes}
    (fits : text.length < buffer.cells.length) :
    CString.ofBuffer (buffer.store 0 (text ++ [0])).cells = CString.ofBuffer text := by
  have room : 0 + (text ++ [0]).length ≤ buffer.cells.length := by
    rw [List.length_append, List.length_singleton]
    omega
  rw [store_cells room, List.take_zero, List.nil_append, List.append_assoc,
    List.singleton_append, CString.ofBuffer_nul]

theorem store_append (buffer : TrackedBuffer) (offset : Nat) (front back : Bytes) :
    buffer.store offset (front ++ back) =
      (buffer.store offset front).store (offset + front.length) back := by
  induction front generalizing buffer offset with
  | nil => rfl
  | cons byte front ih =>
      rw [List.cons_append, store, ih, store, List.length_cons]
      congr 1
      omega

/-- The array starts with this text. -/
structure Holds (buffer : TrackedBuffer) (text : Bytes) : Prop where
  cells : buffer.cells.take text.length = text
  fits : text.length ≤ buffer.cells.length

theorem snprintf_fits {buffer : TrackedBuffer} {size : Nat} {text : Bytes}
    (fits : text.length < size) : buffer.snprintf size text = buffer.store 0 (text ++ [0]) := by
  rw [snprintf, if_neg (by omega), List.take_of_length_le (by omega)]

theorem snprintf_writes {buffer : TrackedBuffer} {size : Nat} {text : Bytes}
    (inside : ∀ offset ∈ buffer.writes, offset < size) :
    ∀ offset ∈ (buffer.snprintf size text).writes, offset < size := by
  intro offset member
  by_cases none : size = 0
  · rw [snprintf, if_pos none] at member
    exact inside offset member
  · rw [snprintf, if_neg none, store_writes] at member
    rcases List.mem_append.mp member with before | here
    · exact inside offset before
    · simp only [List.length_append, List.length_take, List.length_singleton,
        List.mem_range'_1] at here
      omega

@[simp] theorem snprintf_length (buffer : TrackedBuffer) (size : Nat) (text : Bytes) :
    (buffer.snprintf size text).cells.length = buffer.cells.length := by
  unfold snprintf
  split
  · rfl
  · exact store_length _ _ _

theorem Holds.nothing (buffer : TrackedBuffer) : buffer.Holds [] := ⟨rfl, Nat.zero_le _⟩

theorem Holds.unique {buffer : TrackedBuffer} {first second : Bytes} (one : buffer.Holds first)
    (other : buffer.Holds second) (long : first.length = second.length) : first = second := by
  rw [← one.cells, ← other.cells, long]

theorem Holds.load {buffer : TrackedBuffer} {text : Bytes} (holds : buffer.Holds text)
    {offset count : Nat} (inside : offset + count ≤ text.length) :
    (buffer.load offset count).1 = (text.drop offset).take count := by
  have fits := holds.fits
  calc
    (buffer.load offset count).1 = (buffer.cells.drop offset).take count :=
      load_inside (by omega)
    _ = ((buffer.cells.take text.length).drop offset).take count := by
      rw [List.drop_take, List.take_take, Nat.min_eq_left (by omega)]
    _ = (text.drop offset).take count := by rw [holds.cells]

/-- Writing right behind the text extends it. -/
theorem Holds.store {buffer : TrackedBuffer} {text bytes : Bytes} (holds : buffer.Holds text)
    {offset : Nat} (behind : offset = text.length)
    (room : offset + bytes.length ≤ buffer.cells.length) :
    (buffer.store offset bytes).Holds (text ++ bytes) := by
  induction bytes generalizing buffer offset text with
  | nil => simpa [TrackedBuffer.store] using holds
  | cons byte rest ih =>
      subst behind
      rw [List.length_cons] at room
      let written : TrackedBuffer :=
        { buffer with
          cells := buffer.cells.set text.length byte
          writes := buffer.writes ++ [text.length] }
      have extended : written.Holds (text ++ [byte]) := by
        constructor
        · rw [List.length_append, List.length_singleton,
            List.take_succ_eq_append_getElem (by simp [written]; omega),
            List.take_set_of_le le_rfl, holds.cells, List.getElem_set_self]
        · rw [List.length_append, List.length_singleton, List.length_set]
          omega
      have later := ih extended (by rw [List.length_append, List.length_singleton])
        (by rw [List.length_set]; omega)
      rwa [List.append_assoc, List.singleton_append] at later

end TrackedBuffer

end Firmware
