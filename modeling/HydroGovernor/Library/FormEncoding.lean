import HydroGovernor.Library.CString

/-! The application/x-www-form-urlencoded format: the decoder of a component, and the pairs of a
body. -/

namespace Firmware.Form

/-! Components -/

def percentSign : UInt8 := 0x25
def plusSign : UInt8 := 0x2B
def ampersand : UInt8 := 0x26
def equalsSign : UInt8 := 0x3D

def hexValue (byte : UInt8) : Option Nat :=
  if 0x30 ≤ byte ∧ byte ≤ 0x39 then some (byte.toNat - 0x30)
  else if 0x41 ≤ byte ∧ byte ≤ 0x46 then some (byte.toNat - 0x37)
  else if 0x61 ≤ byte ∧ byte ≤ 0x66 then some (byte.toNat - 0x57)
  else none

def hexByte (high low : UInt8) : Option UInt8 :=
  match hexValue high, hexValue low with
  | some first, some second => some (UInt8.ofNat (first * 16 + second))
  | _, _ => none

/-- A percent sign that no two digits follow stands for itself. -/
def decode : Bytes → Bytes
  | [] => []
  | byte :: rest =>
      if byte = percentSign then
        match rest with
        | high :: low :: after =>
            match hexByte high low with
            | some value => value :: decode after
            | none => byte :: decode (high :: low :: after)
        | short => byte :: decode short
      else if byte = plusSign then 0x20 :: decode rest
      else byte :: decode rest

def startsWithPair : Bytes → Bool
  | high :: low :: _ => (hexByte high low).isSome
  | _ => false

/-- A component taken apart into what its bytes are decoded from. -/
inductive Spelled : Bytes → Prop where
  | empty : Spelled []
  | plain (byte : UInt8) (rest : Bytes) (notPercent : byte ≠ percentSign)
      (notPlus : byte ≠ plusSign) (later : Spelled rest) : Spelled (byte :: rest)
  | plus (rest : Bytes) (later : Spelled rest) : Spelled (plusSign :: rest)
  | pair (high low value : UInt8) (rest : Bytes) (digits : hexByte high low = some value)
      (later : Spelled rest) : Spelled (percentSign :: high :: low :: rest)
  | percent (rest : Bytes) (unpaired : startsWithPair rest = false) (later : Spelled rest) :
      Spelled (percentSign :: rest)

theorem spelled (text : Bytes) : Spelled text := by
  match text with
  | [] => exact .empty
  | byte :: rest =>
      by_cases percent : byte = percentSign
      · subst percent
        cases paired : startsWithPair rest with
        | false => exact .percent rest paired (spelled rest)
        | true =>
            match rest, paired with
            | high :: low :: after, paired =>
                obtain ⟨value, digits⟩ := Option.isSome_iff_exists.mp paired
                exact .pair high low value after digits (spelled after)
      · by_cases plus : byte = plusSign
        · subst plus
          exact .plus rest (spelled rest)
        · exact .plain byte rest percent plus (spelled rest)
termination_by text.length

theorem decode_plain {byte : UInt8} (notPercent : byte ≠ percentSign) (notPlus : byte ≠ plusSign)
    (rest : Bytes) : decode (byte :: rest) = byte :: decode rest := by
  rw [decode.eq_def]
  simp only [notPercent, notPlus, if_false]

theorem decode_plus (rest : Bytes) : decode (plusSign :: rest) = 0x20 :: decode rest := by
  rw [decode.eq_def]
  simp [plusSign, percentSign]

theorem decode_pair {high low value : UInt8} (digits : hexByte high low = some value)
    (rest : Bytes) : decode (percentSign :: high :: low :: rest) = value :: decode rest := by
  rw [decode.eq_def]
  simp only [if_true, digits]

theorem decode_percent {rest : Bytes} (unpaired : startsWithPair rest = false) :
    decode (percentSign :: rest) = percentSign :: decode rest := by
  rw [decode.eq_def]
  simp only [if_true]
  match rest, unpaired with
  | [], _ => rfl
  | [_], _ => rfl
  | high :: low :: after, unpaired =>
      have digits : hexByte high low = none := Option.not_isSome_iff_eq_none.mp (by
        simpa [startsWithPair] using unpaired)
      simp only [digits]

theorem startsWithPair_append {front : Bytes} (paired : startsWithPair front = true)
    (back : Bytes) : startsWithPair (front ++ back) = true := by
  match front, paired with
  | _ :: _ :: _, paired => exact paired

theorem hexByte_isSome {high low : UInt8} :
    (hexByte high low).isSome = ((hexValue high).isSome && (hexValue low).isSome) := by
  unfold hexByte
  cases hexValue high with
  | none => rfl
  | some first =>
      cases hexValue low with
      | none => rfl
      | some second => rfl

/-! Pairs -/

/-- The name and the value around the first equals sign. -/
def pairOf (segment : Bytes) : Option (Bytes × Bytes) :=
  match segment.dropWhile (· != equalsSign) with
  | [] => none
  | _ :: value => some (segment.takeWhile (· != equalsSign), value)

def pairs (body : Bytes) : List (Bytes × Bytes) := (body.splitOn ampersand).filterMap pairOf

theorem pairOf_named {name : Bytes} (notEquals : equalsSign ∉ name) (value : Bytes) :
    pairOf (name ++ equalsSign :: value) = some (name, value) := by
  have stays : ∀ byte ∈ name, (byte != equalsSign) = true := by
    intro byte member
    exact bne_iff_ne.mpr (fun same => notEquals (same ▸ member))
  rw [pairOf, List.dropWhile_append_of_pos stays, List.takeWhile_append_of_pos stays]
  simp

theorem pairOf_segment {segment name value : Bytes} (pair : pairOf segment = some (name, value)) :
    segment = name ++ equalsSign :: value := by
  have whole := List.takeWhile_append_dropWhile (p := (· != equalsSign)) (l := segment)
  have boundary := List.head?_dropWhile_not (· != equalsSign) segment
  rw [pairOf] at pair
  cases behind : segment.dropWhile (· != equalsSign) with
  | nil => simp [behind] at pair
  | cons byte rest =>
      simp only [behind, Option.some.injEq, Prod.mk.injEq] at pair
      obtain ⟨front, back⟩ := pair
      have separator : byte = equalsSign := by simpa [behind] using boundary
      rw [← whole, front, behind, separator, back]

theorem pairs_append (front back : Bytes) :
    pairs (front ++ ampersand :: back) = pairs front ++ pairs back := by
  rw [pairs, List.splitOn_append_cons_self, List.filterMap_append]
  rfl

theorem pairs_segment {segment : Bytes} (single : ampersand ∉ segment) :
    pairs segment = (pairOf segment).toList := by
  rw [pairs, List.splitOn_eq_singleton single, List.filterMap_cons]
  cases pairOf segment <;> rfl

/-- A body that begins with a name and an equals sign begins with a pair. -/
theorem pairs_begin {name : Bytes} (notEquals : equalsSign ∉ name) (notAmpersand : ampersand ∉ name)
    (after : Bytes) :
    ∃ others, pairs (name ++ equalsSign :: after) =
      (name, after.takeWhile (· != ampersand)) :: others := by
  have whole := List.takeWhile_append_dropWhile (p := (· != ampersand)) (l := after)
  have boundary := List.head?_dropWhile_not (· != ampersand) after
  have single : ampersand ∉ name ++ equalsSign :: after.takeWhile (· != ampersand) := by
    intro member
    rcases List.mem_append.mp member with inName | inValue
    · exact notAmpersand inName
    rcases List.mem_cons.mp inValue with same | inside
    · exact absurd same (by decide)
    · have kept := List.all_eq_true.mp List.all_takeWhile _ inside
      simp at kept
  have first : pairs (name ++ equalsSign :: after.takeWhile (· != ampersand)) =
      [(name, after.takeWhile (· != ampersand))] := by
    rw [pairs_segment single, pairOf_named notEquals]
    rfl
  cases behind : after.dropWhile (· != ampersand) with
  | nil =>
      refine ⟨[], ?_⟩
      rw [behind, List.append_nil] at whole
      rw [← first, whole]
  | cons byte rest =>
      have separator : byte = ampersand := by simpa [behind] using boundary
      refine ⟨pairs rest, ?_⟩
      calc
        pairs (name ++ equalsSign :: after) =
            pairs ((name ++ equalsSign :: after.takeWhile (· != ampersand)) ++
              ampersand :: rest) := by
          rw [behind, separator] at whole
          rw [List.append_assoc, List.cons_append, whole]
        _ = (name, after.takeWhile (· != ampersand)) :: pairs rest := by
          rw [pairs_append, first, List.singleton_append]

theorem infix_intercalate {separator segment : Bytes} {segments : List Bytes}
    (member : segment ∈ segments) : segment <:+: separator.intercalate segments := by
  induction segments with
  | nil => cases member
  | cons head tail ih =>
      cases tail with
      | nil =>
          rw [List.mem_singleton.mp member, List.intercalate_singleton]
      | cons next tail =>
          rw [List.intercalate_cons_cons]
          rcases List.mem_cons.mp member with rfl | later
          · rw [List.append_assoc]
            exact (List.prefix_append _ _).isInfix
          · exact (ih later).trans (List.suffix_append _ _).isInfix

theorem pair_infix {body name value : Bytes} (member : (name, value) ∈ pairs body) :
    name ++ equalsSign :: value <:+: body := by
  obtain ⟨segment, part, pair⟩ := List.mem_filterMap.mp member
  have inside : segment <:+: [ampersand].intercalate (body.splitOn ampersand) :=
    infix_intercalate part
  rw [List.intercalate_splitOn] at inside
  rw [← pairOf_segment pair]
  exact inside

end Firmware.Form
