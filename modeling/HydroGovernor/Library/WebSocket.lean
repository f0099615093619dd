import HydroGovernor.Library.CString

/-! WebSocket frames as a client sends them: masked, with the payload length in one of three
forms. -/

namespace Firmware.WebSocket

/-! Big-endian numbers -/

def bigEndian : Nat → Nat → Bytes
  | 0, _ => []
  | count + 1, value => bigEndian count (value / 256) ++ [UInt8.ofNat value]

def ofBigEndian (bytes : Bytes) : Nat :=
  bytes.foldl (fun value byte => value * 256 + byte.toNat) 0

theorem bigEndian_length (count value : Nat) : (bigEndian count value).length = count := by
  induction count generalizing value with
  | zero => rfl
  | succ count ih => rw [bigEndian, List.length_append, ih, List.length_singleton]

theorem ofBigEndian_bigEndian {count value : Nat} (fits : value < 256 ^ count) :
    ofBigEndian (bigEndian count value) = value := by
  induction count generalizing value with
  | zero =>
      rw [pow_zero] at fits
      exact (Nat.lt_one_iff.mp fits).symm
  | succ count ih =>
      have front : value / 256 < 256 ^ count := by
        rw [pow_succ] at fits
        exact Nat.div_lt_of_lt_mul (by rwa [Nat.mul_comm])
      have last : (UInt8.ofNat value).toNat = value % 256 := UInt8.toNat_ofNat'
      have earlier := ih front
      rw [ofBigEndian] at earlier
      rw [bigEndian, ofBigEndian, List.foldl_append, earlier, List.foldl_cons, List.foldl_nil, last]
      omega

/-! Masking -/

/-- Each byte with the byte of the four-byte key whose turn it is. -/
def mask (key bytes : Bytes) : Bytes :=
  bytes.mapIdx (fun index byte => byte ^^^ key.getD (index % 4) 0)

@[simp] theorem mask_length (key bytes : Bytes) : (mask key bytes).length = bytes.length :=
  List.length_mapIdx

theorem mask_mask (key bytes : Bytes) : mask key (mask key bytes) = bytes := by
  apply List.ext_getElem
  · rw [mask_length, mask_length]
  · intro index _ _
    simp only [mask, List.getElem_mapIdx]
    rw [UInt8.xor_assoc, UInt8.xor_self, UInt8.xor_zero]

/-! Frames -/

/-- `first` holds the FIN bit and the opcode. -/
structure Frame where
  first : UInt8
  key : Bytes
  content : Bytes
  key_length : key.length = 4
  content_lt : content.length < 2 ^ 63

def Frame.isData (frame : Frame) : Prop := frame.first &&& 0x0F ≤ 2

instance (frame : Frame) : Decidable frame.isData :=
  inferInstanceAs (Decidable (frame.first &&& 0x0F ≤ 2))

def lengthBytes (length : Nat) : Bytes :=
  if length < 126 then [UInt8.ofNat (0x80 + length)]
  else if length < 2 ^ 16 then 0xFE :: bigEndian 2 length
  else 0xFF :: bigEndian 8 length

namespace Frame

def headerRest (frame : Frame) : Bytes := lengthBytes frame.content.length ++ frame.key

def payload (frame : Frame) : Bytes := mask frame.key frame.content

def rest (frame : Frame) : Bytes := frame.headerRest ++ frame.payload

def wire (frame : Frame) : Bytes := frame.first :: frame.rest

end Frame

/-- What the header tells, and how many bytes it took behind the first. -/
structure Header where
  length : Nat
  key : Bytes
  size : Nat
  deriving DecidableEq, Repr

/-- A reader of headers; it refuses a frame without a mask. -/
def readHeader : Bytes → Option Header
  | [] => none
  | second :: rest =>
      let short := second.toNat - 0x80
      let width := if short < 126 then 0 else if short = 126 then 2 else 8
      if second < 0x80 ∨ rest.length < width + 4 then none
      else some
        { length := if short < 126 then short else ofBigEndian (rest.take width)
          key := (rest.drop width).take 4
          size := 1 + width + 4 }

theorem readHeader_short {length : Nat} (short : length < 126) {key : Bytes}
    (keyed : key.length = 4) (rest : Bytes) :
    readHeader (UInt8.ofNat (0x80 + length) :: (key ++ rest)) = some ⟨length, key, 5⟩ := by
  have value : (UInt8.ofNat (0x80 + length)).toNat = 0x80 + length := by
    rw [UInt8.toNat_ofNat']
    omega
  have masked : ¬ UInt8.ofNat (0x80 + length) < 0x80 := by
    rw [UInt8.lt_iff_toNat_lt, value]
    simp
  have long : ¬ (key ++ rest).length < 0 + 4 := by
    rw [List.length_append]
    omega
  simp only [readHeader, value, Nat.add_sub_cancel_left, short, if_true, masked, long, or_self,
    if_false, List.drop_zero, List.take_left' keyed]

theorem readHeader_wide {second : UInt8} {width length : Nat} {key : Bytes}
    (form : second = 0xFE ∧ width = 2 ∨ second = 0xFF ∧ width = 8) (fits : length < 256 ^ width)
    (keyed : key.length = 4) (rest : Bytes) :
    readHeader (second :: (bigEndian width length ++ (key ++ rest))) =
      some ⟨length, key, 1 + width + 4⟩ := by
  have sized := bigEndian_length width length
  have number : (bigEndian width length ++ (key ++ rest)).take width = bigEndian width length :=
    List.take_left' sized
  have behind : (bigEndian width length ++ (key ++ rest)).drop width = key ++ rest :=
    List.drop_left' sized
  have key_eq : (key ++ rest).take 4 = key := List.take_left' keyed
  rcases form with ⟨rfl, rfl⟩ | ⟨rfl, rfl⟩
  · simp [readHeader, number, behind, key_eq, ofBigEndian_bigEndian fits, sized, keyed]
    omega
  · simp [readHeader, number, behind, key_eq, ofBigEndian_bigEndian fits, sized, keyed]
    omega

/-- The reader takes the header of every frame, and no byte of the payload. -/
theorem readHeader_frame (frame : Frame) (rest : Bytes) :
    readHeader (frame.headerRest ++ rest) =
      some ⟨frame.content.length, frame.key, frame.headerRest.length⟩ := by
  have keyed := frame.key_length
  have bound := frame.content_lt
  simp only [Frame.headerRest, lengthBytes]
  split
  · rename_i short
    simp only [List.cons_append, List.nil_append, List.length_cons, keyed]
    exact readHeader_short short keyed rest
  split
  · rename_i medium
    have read := readHeader_wide (.inl ⟨rfl, rfl⟩) (show frame.content.length < 256 ^ 2 from medium)
      keyed rest
    simpa [keyed, bigEndian_length] using read
  · have read := readHeader_wide (.inr ⟨rfl, rfl⟩)
      (show frame.content.length < 256 ^ 8 by omega) keyed rest
    simpa [keyed, bigEndian_length] using read

end Firmware.WebSocket
