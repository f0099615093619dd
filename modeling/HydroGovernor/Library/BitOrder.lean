import HydroGovernor.Library.CString

/-! Bytes as trains of bits, most significant bit first, and their sum as a checksum. -/

namespace Firmware.BitOrder

/-! Changing one element of a list -/

variable {α : Type*}

theorem modify_append_left {front : List α} {index : Nat} (inside : index < front.length)
    (change : α → α) (back : List α) :
    (front ++ back).modify index change = front.modify index change ++ back := by
  induction front generalizing index with
  | nil => cases inside
  | cons first front ih =>
      cases index with
      | zero => rfl
      | succ index => simpa using ih (Nat.lt_of_succ_lt_succ inside)

theorem modify_append_right (front : List α) (index : Nat) (change : α → α) (back : List α) :
    (front ++ back).modify (front.length + index) change = front ++ back.modify index change := by
  induction front with
  | nil => simp
  | cons first front ih =>
      rw [List.length_cons, Nat.succ_add, List.cons_append, List.modify_succ_cons, ih,
        List.cons_append]

theorem sum_modify_ne [AddCancelMonoid α] {terms : List α} {index : Nat}
    (inside : index < terms.length) {change : α → α} (differs : ∀ term, change term ≠ term) :
    (terms.modify index change).sum ≠ terms.sum := by
  induction terms generalizing index with
  | nil => cases inside
  | cons term terms ih =>
      cases index with
      | zero =>
          intro same
          rw [List.modify_zero_cons, List.sum_cons, List.sum_cons] at same
          exact differs term (add_right_cancel same)
      | succ index =>
          intro same
          rw [List.modify_succ_cons, List.sum_cons, List.sum_cons] at same
          exact ih (Nat.lt_of_succ_lt_succ inside) (add_left_cancel same)

theorem sealed_modify [AddCancelMonoid α] {terms : List α} {index : Nat}
    (inside : index < terms.length + 1) {change : α → α} (differs : ∀ term, change term ≠ term) :
    ∃ received last, (terms ++ [terms.sum]).modify index change = received ++ [last] ∧
      received.length = terms.length ∧ last ≠ received.sum := by
  by_cases within : index < terms.length
  · refine ⟨terms.modify index change, terms.sum, modify_append_left within _ _, ?_, ?_⟩
    · exact List.length_modify _ _ _
    · exact (sum_modify_ne within differs).symm
  · have last : index = terms.length := by omega
    subst last
    exact ⟨terms, change terms.sum, modify_append_right terms 0 _ _, rfl, differs _⟩

/-! Bits -/

def byteBits (byte : UInt8) : List Bool :=
  (List.range 8).map (fun place => byte.toNat.testBit (7 - place))

@[simp] theorem byteBits_length (byte : UInt8) : (byteBits byte).length = 8 := by
  rw [byteBits, List.length_map, List.length_range]

/-- A byte with one more bit at its low end. -/
def shiftIn (byte : UInt8) (bit : Bool) : UInt8 :=
  if bit then byte <<< 1 ||| 1 else byte <<< 1

theorem shiftIn_byteBits : ∀ byte : UInt8, (byteBits byte).foldl shiftIn 0 = byte := by
  decide +kernel

/-- The bits go one by one into the byte whose turn it is, `index` being the number of the
first. -/
def shiftAll : List Bool → Nat → Bytes → Bytes
  | [], _, data => data
  | bit :: rest, index, data =>
      shiftAll rest (index + 1) (data.modify (index / 8) (fun byte => shiftIn byte bit))

theorem shiftAll_append (front back : List Bool) (index : Nat) (data : Bytes) :
    shiftAll (front ++ back) index data =
      shiftAll back (index + front.length) (shiftAll front index data) := by
  induction front generalizing index data with
  | nil => rfl
  | cons bit front ih =>
      rw [List.cons_append, shiftAll, ih, shiftAll, List.length_cons, Nat.add_assoc,
        Nat.add_comm 1]

theorem shiftAll_turn (bits : List Bool) (turn place : Nat) (fits : place + bits.length ≤ 8)
    (data : Bytes) :
    shiftAll bits (8 * turn + place) data =
      data.modify turn (fun byte => bits.foldl shiftIn byte) := by
  induction bits generalizing place data with
  | nil => exact (List.modify_id turn data).symm
  | cons bit rest ih =>
      rw [List.length_cons] at fits
      have here : (8 * turn + place) / 8 = turn := by omega
      rw [shiftAll, here, Nat.add_assoc, ih (place + 1) (by omega), List.modify_modify_eq]
      rfl

theorem shiftAll_byte (front : Bytes) (byte : UInt8) (count : Nat) :
    shiftAll (byteBits byte) (8 * front.length) (front ++ List.replicate (count + 1) 0) =
      (front ++ [byte]) ++ List.replicate count 0 := by
  calc
    shiftAll (byteBits byte) (8 * front.length) (front ++ List.replicate (count + 1) 0) =
        (front ++ List.replicate (count + 1) 0).modify front.length
          (fun low => (byteBits byte).foldl shiftIn low) :=
      shiftAll_turn (byteBits byte) front.length 0 (by rw [byteBits_length]) _
    _ = front ++ (List.replicate (count + 1) 0).modify 0
          (fun low => (byteBits byte).foldl shiftIn low) :=
      modify_append_right front 0 _ _
    _ = front ++ (byte :: List.replicate count 0) := by
      rw [List.replicate_succ, List.modify_zero_cons, shiftIn_byteBits]
    _ = (front ++ [byte]) ++ List.replicate count 0 := by
      rw [List.append_assoc, List.singleton_append]

theorem shiftAll_bytes (front bytes : Bytes) :
    shiftAll (bytes.flatMap byteBits) (8 * front.length)
      (front ++ List.replicate bytes.length 0) = front ++ bytes := by
  induction bytes generalizing front with
  | nil => rfl
  | cons byte bytes ih =>
      have later := ih (front ++ [byte])
      rw [List.length_append, List.length_singleton, Nat.mul_add] at later
      rw [List.flatMap_cons, shiftAll_append, List.length_cons, shiftAll_byte, byteBits_length,
        later, List.append_assoc, List.singleton_append]

/-! One bit the other way -/

def placeMask (place : Nat) : UInt8 := UInt8.ofNat (0x80 >>> place)

theorem placeMask_testBit : ∀ place other : Fin 8,
    (placeMask place).toNat.testBit (7 - other) = decide (place = other) := by
  decide

theorem byteBits_flip (byte : UInt8) (place : Fin 8) :
    (byteBits byte).modify place not = byteBits (byte ^^^ placeMask place) := by
  apply List.ext_getElem
  · rw [List.length_modify, byteBits_length, byteBits_length]
  · intro index _ inside
    rw [byteBits_length] at inside
    have mask := placeMask_testBit place ⟨index, inside⟩
    rw [List.getElem_modify]
    simp only [byteBits, List.getElem_map, List.getElem_range, UInt8.toNat_xor, Nat.testBit_xor]
    rw [mask]
    split
    · rename_i here
      simp [← here]
    · rename_i other
      have apart : place ≠ ⟨index, inside⟩ := fun same => other (congrArg Fin.val same)
      simp [apart]

theorem flip_ne (place : Fin 8) (byte : UInt8) : byte ^^^ placeMask place ≠ byte := by
  intro same
  have nonzero : ∀ place : Fin 8, placeMask place ≠ 0 := by decide
  exact nonzero place ((UInt8.xor_right_inj byte).mp (same.trans UInt8.xor_zero.symm))

/-- A bit of the train the other way is one other byte. -/
theorem flatMap_flip (bytes : Bytes) (turn : Nat) (place : Fin 8) :
    (bytes.flatMap byteBits).modify (8 * turn + place) not =
      (bytes.modify turn (fun byte => byte ^^^ placeMask place)).flatMap byteBits := by
  induction bytes generalizing turn with
  | nil => simp
  | cons byte bytes ih =>
      cases turn with
      | zero =>
          have inside : 8 * 0 + place.val < (byteBits byte).length := by simp
          rw [List.flatMap_cons, modify_append_left inside, Nat.mul_zero, Nat.zero_add,
            byteBits_flip, List.modify_zero_cons, List.flatMap_cons]
      | succ turn =>
          have behind : 8 * (turn + 1) + place.val =
              (byteBits byte).length + (8 * turn + place.val) := by
            rw [byteBits_length]
            omega
          rw [List.flatMap_cons, behind, modify_append_right, ih, List.modify_succ_cons,
            List.flatMap_cons]

/-! Two neighbouring bits the other way -/

section

variable {Term : Type*} [AddCommGroup Term]

theorem sum_modify {terms : List Term} {index : Nat} (inside : index < terms.length)
    (change : Term → Term) :
    ∃ term, (terms.modify index change).sum = terms.sum + (change term - term) := by
  induction terms generalizing index with
  | nil => cases inside
  | cons first terms ih =>
      cases index with
      | zero =>
          refine ⟨first, ?_⟩
          rw [List.modify_zero_cons, List.sum_cons, List.sum_cons]
          abel
      | succ index =>
          obtain ⟨term, sum⟩ := ih (Nat.lt_of_succ_lt_succ inside)
          refine ⟨term, ?_⟩
          rw [List.modify_succ_cons, List.sum_cons, List.sum_cons, sum, add_assoc]

/-- Two changed neighbours in a list that ends with the sum of the others: the sum shows them
unless they cancel out. -/
theorem sealed_modify_next {terms : List Term} {index : Nat} (inside : index < terms.length)
    {change next : Term → Term}
    (visible : ∀ term other, change term - term + (next other - other) ≠ 0)
    (unlike : ∀ term other, next other - other ≠ change term - term) :
    ∃ received last,
      ((terms ++ [terms.sum]).modify index change).modify (index + 1) next = received ++ [last] ∧
      received.length = terms.length ∧ last ≠ received.sum := by
  obtain ⟨term, changed⟩ := sum_modify inside change
  have length : (terms.modify index change).length = terms.length := List.length_modify _ _ _
  rw [modify_append_left inside]
  by_cases within : index + 1 < terms.length
  · have within : index + 1 < (terms.modify index change).length := length ▸ within
    obtain ⟨other, sum⟩ := sum_modify within next
    refine ⟨_, terms.sum, modify_append_left within _ _, ?_, ?_⟩
    · rw [List.length_modify, length]
    · rw [sum, changed, add_assoc]
      exact fun same => visible term other (left_eq_add.mp same)
  · have last : index + 1 = (terms.modify index change).length + 0 := by omega
    rw [last, modify_append_right]
    refine ⟨_, next terms.sum, rfl, length, ?_⟩
    rw [changed]
    exact fun same => unlike term terms.sum (sub_eq_of_eq_add' same)

end

/-- The bit at this place the other way if `first`, and the next one if `second`. -/
def burst (first second : Bool) (place : Nat) (bits : List Bool) : List Bool :=
  (bits.modify place (fun bit => bit ^^ first)).modify (place + 1) (fun bit => bit ^^ second)

theorem burst_nil (first second : Bool) (place : Nat) : burst first second place [] = [] := by
  simp [burst]

theorem burst_cons (first second bit : Bool) (place : Nat) (bits : List Bool) :
    burst first second (place + 1) (bit :: bits) = bit :: burst first second place bits := rfl

theorem lowBit_flip : ∀ byte : UInt8,
    (byte ^^^ placeMask 7) - byte = 1 ∨ (byte ^^^ placeMask 7) - byte = -1 := by
  decide +kernel

theorem highBit_flip : ∀ byte : UInt8, (byte ^^^ placeMask 0) - byte = 128 := by
  decide +kernel

/-- The train of a list that ends with the sum of the others, or of one that does not. -/
def Noticed (terms : Bytes) (train : List Bool) : Prop :=
  train = (terms ++ [terms.sum]).flatMap byteBits ∨
    ∃ received last, train = (received ++ [last]).flatMap byteBits ∧
      received.length = terms.length ∧ last ≠ received.sum

theorem noticed_modify (terms : Bytes) (turn : Nat) {change : UInt8 → UInt8}
    (differs : ∀ byte, change byte ≠ byte) :
    Noticed terms (((terms ++ [terms.sum]).modify turn change).flatMap byteBits) := by
  by_cases inside : turn < terms.length + 1
  · obtain ⟨received, last, changed, length, unsealed⟩ := sealed_modify inside differs
    exact .inr ⟨received, last, congrArg _ changed, length, unsealed⟩
  · rw [List.modify_eq_self (by rw [List.length_append, List.length_singleton]; omega)]
    exact .inl rfl

theorem noticed_flip (terms : Bytes) (place : Nat) :
    Noticed terms (((terms ++ [terms.sum]).flatMap byteBits).modify place not) := by
  have split : place = 8 * (place / 8) + (⟨place % 8, Nat.mod_lt _ (by decide)⟩ : Fin 8) :=
    (Nat.div_add_mod place 8).symm
  rw [split, flatMap_flip]
  exact noticed_modify terms _ (flip_ne _)

theorem flips_ne (place next : Fin 8) (other : place ≠ next) (byte : UInt8) :
    (byte ^^^ placeMask place) ^^^ placeMask next ≠ byte := by
  intro same
  rw [UInt8.xor_assoc] at same
  have masks : ∀ place next : Fin 8, place ≠ next → placeMask place ^^^ placeMask next ≠ 0 := by
    decide
  exact masks place next other ((UInt8.xor_right_inj byte).mp (same.trans UInt8.xor_zero.symm))

/-- The lowest bit of one byte and the highest of the next never cancel out. -/
theorem noticed_across (terms : Bytes) (turn : Nat) :
    Noticed terms ((((terms ++ [terms.sum]).modify turn (fun byte => byte ^^^ placeMask 7)).modify
      (turn + 1) (fun byte => byte ^^^ placeMask 0)).flatMap byteBits) := by
  by_cases inside : turn < terms.length
  · have visible : ∀ byte other : UInt8,
        (byte ^^^ placeMask 7) - byte + ((other ^^^ placeMask 0) - other) ≠ 0 := by
      intro byte other
      rw [highBit_flip]
      rcases lowBit_flip byte with up | down
      · rw [up]
        decide
      · rw [down]
        decide
    have unlike : ∀ byte other : UInt8,
        (other ^^^ placeMask 0) - other ≠ (byte ^^^ placeMask 7) - byte := by
      intro byte other
      rw [highBit_flip]
      rcases lowBit_flip byte with up | down
      · rw [up]
        decide
      · rw [down]
        decide
    obtain ⟨received, last, changed, length, unsealed⟩ :=
      sealed_modify_next inside visible unlike
    exact .inr ⟨received, last, congrArg _ changed, length, unsealed⟩
  · have behind : ((terms ++ [terms.sum]).modify turn
        (fun byte => byte ^^^ placeMask 7)).length ≤ turn + 1 := by
      rw [List.length_modify, List.length_append, List.length_singleton]
      omega
    rw [List.modify_eq_self behind]
    exact noticed_modify terms turn (flip_ne 7)

theorem noticed_flips (terms : Bytes) (place : Nat) :
    Noticed terms
      ((((terms ++ [terms.sum]).flatMap byteBits).modify place not).modify (place + 1) not) := by
  by_cases within : place % 8 < 7
  · have here : place = 8 * (place / 8) + (⟨place % 8, by omega⟩ : Fin 8) :=
      (Nat.div_add_mod place 8).symm
    have next : place + 1 = 8 * (place / 8) + (⟨place % 8 + 1, by omega⟩ : Fin 8) :=
      congrArg Nat.succ here
    rw [next]
    nth_rewrite 1 [here]
    rw [flatMap_flip, flatMap_flip, List.modify_modify_eq]
    apply noticed_modify
    apply flips_ne
    rw [Ne, Fin.mk.injEq]
    omega
  · have here : place = 8 * (place / 8) + (7 : Fin 8) := by
      show place = 8 * (place / 8) + 7
      omega
    have next : place + 1 = 8 * (place / 8 + 1) + (0 : Fin 8) := by
      show place + 1 = 8 * (place / 8 + 1) + 0
      omega
    rw [next]
    nth_rewrite 1 [here]
    rw [flatMap_flip, flatMap_flip]
    exact noticed_across terms _

/-- The sum shows any error that touches no more than two neighbouring bits. -/
theorem noticed_burst (terms : Bytes) (first second : Bool) (place : Nat) :
    Noticed terms (burst first second place ((terms ++ [terms.sum]).flatMap byteBits)) := by
  have flips : (fun bit => bit ^^ true) = not := funext Bool.xor_true
  have keeps : (fun bit => bit ^^ false) = id := funext Bool.xor_false
  unfold burst
  cases first with
  | false =>
      rw [keeps, List.modify_id]
      cases second with
      | false =>
          rw [keeps, List.modify_id]
          exact .inl rfl
      | true =>
          rw [flips]
          exact noticed_flip terms (place + 1)
  | true =>
      rw [flips]
      cases second with
      | false =>
          rw [keeps, List.modify_id]
          exact noticed_flip terms place
      | true =>
          rw [flips]
          exact noticed_flips terms place

end Firmware.BitOrder
