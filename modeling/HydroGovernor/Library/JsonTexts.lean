import HydroGovernor.Library.Json

/-! JSON texts that no writer of this library wrote: numbers in any form, and objects put
together from the texts of their members. -/

namespace Firmware.Json

open Utf8 (Text)

/-! A number goes on no further than its own text -/

theorem head_append {text rest : Text} {char : Char} (other : rest.head? ≠ some char) :
    (text ++ rest).head? = some char ↔ text.head? = some char := by
  cases text with
  | nil => simp [other]
  | cons first text => rfl

theorem tail_append {text rest : Text} {char : Char} (first : text.head? = some char) :
    (text ++ rest).tail = text.tail ++ rest := by
  cases text with
  | nil => cases first
  | cons char text => rfl

theorem readDigits_append {text digits after rest : Text}
    (taken : readDigits text = some (digits, after))
    (ends : ∀ char, rest.head? = some char → char.isDigit = false) :
    readDigits (text ++ rest) = some (digits, after ++ rest) := by
  have stops : rest.takeWhile Char.isDigit = [] ∧ rest.dropWhile Char.isDigit = rest := by
    cases rest with
    | nil => exact ⟨rfl, rfl⟩
    | cons char rest => simp [ends char rfl]
  have digitsOf : (text ++ rest).takeWhile Char.isDigit = text.takeWhile Char.isDigit := by
    rw [List.takeWhile_append, stops.1, List.append_nil]
    split
    · rename_i whole
      exact ((List.takeWhile_prefix _).eq_of_length whole).symm
    · rfl
  have behind : (text ++ rest).dropWhile Char.isDigit = text.dropWhile Char.isDigit ++ rest := by
    rw [List.dropWhile_append, stops.2]
    split
    · rename_i whole
      rw [List.isEmpty_iff.mp whole, List.nil_append]
    · rfl
  rw [readDigits] at taken
  split at taken
  · cases taken
  · rename_i some_digit
    cases taken
    rw [readDigits, digitsOf, behind, if_neg some_digit]

theorem readSign_append {text rest : Text} (nonempty : text ≠ []) :
    readSign (text ++ rest) = ((readSign text).1, (readSign text).2 ++ rest) := by
  cases text with
  | nil => exact absurd rfl nonempty
  | cons char text =>
      rw [readSign, readSign, List.cons_append, List.head?_cons, List.head?_cons]
      split
      · rfl
      · rfl

theorem readExponentSign_append {text rest : Text} (nonempty : text ≠ []) :
    readExponentSign (text ++ rest) =
      ((readExponentSign text).1, (readExponentSign text).2 ++ rest) := by
  rw [readExponentSign, readExponentSign, readSign_append nonempty]
  cases text with
  | nil => exact absurd rfl nonempty
  | cons char text =>
      rw [List.cons_append, List.head?_cons, List.head?_cons]
      split
      · rfl
      · rfl

theorem readFraction_append {text digits after rest : Text}
    (taken : readFraction text = some (digits, after)) (ends : EndsNumber rest) :
    readFraction (text ++ rest) = some (digits, after ++ rest) := by
  have noPoint : rest.head? ≠ some '.' := fun point => (ends _ point).2.1 rfl
  rw [readFraction] at taken ⊢
  by_cases point : text.head? = some '.'
  · rw [if_pos point] at taken
    rw [if_pos ((head_append noPoint).mpr point), tail_append point]
    exact readDigits_append taken (fun char first => (ends char first).1)
  · rw [if_neg point] at taken
    cases taken
    rw [if_neg (fun found => point ((head_append noPoint).mp found))]

theorem readExponent_append {text after rest : Text} {exponent : Int}
    (taken : readExponent text = some (exponent, after)) (ends : EndsNumber rest) :
    readExponent (text ++ rest) = some (exponent, after ++ rest) := by
  have lower : rest.head? ≠ some 'e' := fun found => (ends _ found).2.2.1 rfl
  have upper : rest.head? ≠ some 'E' := fun found => (ends _ found).2.2.2 rfl
  have marks : (text ++ rest).head? = some 'e' ∨ (text ++ rest).head? = some 'E' ↔
      text.head? = some 'e' ∨ text.head? = some 'E' :=
    or_congr (head_append lower) (head_append upper)
  rw [readExponent] at taken ⊢
  by_cases mark : text.head? = some 'e' ∨ text.head? = some 'E'
  · rw [if_pos mark] at taken
    rw [if_pos (marks.mpr mark)]
    obtain ⟨read, digits, same⟩ := Option.map_eq_some_iff.mp taken
    have nonempty : text.tail ≠ [] := by
      intro empty
      rw [empty] at digits
      cases digits
    have tail : (text ++ rest).tail = text.tail ++ rest := by
      rcases mark with small | large
      · exact tail_append small
      · exact tail_append large
    cases same
    rw [tail, readExponentSign_append nonempty]
    dsimp only
    rw [readDigits_append digits (fun char first => (ends char first).1), Option.map_some]
  · rw [if_neg mark] at taken
    rw [if_neg (fun found => mark (marks.mp found))]
    cases taken
    rfl

theorem readNumber_append {text after rest : Text} {value : Json}
    (taken : readNumber text = some (value, after)) (ends : EndsNumber rest) :
    readNumber (text ++ rest) = some (value, after ++ rest) := by
  rw [readNumber] at taken
  obtain ⟨integer, digits, taken⟩ := Option.bind_eq_some_iff.mp taken
  split at taken
  · cases taken
  rename_i canonical
  obtain ⟨fraction, decimals, taken⟩ := Option.bind_eq_some_iff.mp taken
  obtain ⟨exponent, power, same⟩ := Option.map_eq_some_iff.mp taken
  have nonempty : text ≠ [] := by
    rintro rfl
    cases digits
  cases same
  rw [readNumber, readSign_append nonempty]
  dsimp only
  rw [readDigits_append digits (fun char first => (ends char first).1), Option.bind_some,
    if_neg canonical, readFraction_append decimals ends, Option.bind_some,
    readExponent_append power ends, Option.map_some]

theorem readNumber_begins {text after : Text} {value : Json}
    (taken : readNumber text = some (value, after)) :
    ∃ char later, text = char :: later ∧ Numeric char := by
  rw [readNumber] at taken
  obtain ⟨integer, digits, _⟩ := Option.bind_eq_some_iff.mp taken
  cases text with
  | nil => cases digits
  | cons char later =>
      refine ⟨char, later, rfl, ?_⟩
      by_cases minus : char = '-'
      · exact Or.inl minus
      · right
        by_contra notDigit
        simp [readSign, minus, readDigits, notDigit] at digits

/-! Texts of values -/

/-- The text is read as the value wherever it stands. -/
def Spells (text : Text) (value : Json) : Prop :=
  ∀ fuel rest, 2 * text.length ≤ fuel → EndsNumber rest →
    readValue fuel (text ++ rest) = some (value, rest)

theorem spells_render (value : Json) : Spells (render value) value := by
  intro fuel rest enough ends
  exact (reads_render fuel).1 value rest enough ends

theorem spells_number {text : Text} {value : Json} (taken : readNumber text = some (value, [])) :
    Spells text value := by
  intro fuel rest enough ends
  obtain ⟨char, later, rfl, numeric⟩ := readNumber_begins taken
  obtain ⟨fuel, rfl⟩ : ∃ less, fuel = less + 1 := by
    rw [List.length_cons] at enough
    exact ⟨fuel - 1, by omega⟩
  rw [List.cons_append, readValue_numeric numeric]
  exact readNumber_append taken ends

theorem read_of_spells {text : Text} {value : Json} (spells : Spells text value) :
    read text = some value := by
  have taken := spells (2 * text.length) [] (le_refl _) EndsNumber.nil
  rw [List.append_nil] at taken
  rw [read, taken]
  rfl

/-- A member of an object, with the text of its value. -/
structure MemberText where
  key : Text
  text : Text
  value : Json

def memberTexts : List MemberText → Text
  | [] => ['\x7d']
  | first :: later =>
      renderText first.key ++ ':' :: (first.text ++ (separator later ++ memberTexts later))

theorem readMembers_spelled {first : MemberText} {later : List MemberText}
    (spells : ∀ part ∈ first :: later, Spells part.text part.value) (fuel : Nat) (rest : Text)
    (enough : 2 * (memberTexts (first :: later)).length ≤ fuel) :
    readMembers fuel (memberTexts (first :: later) ++ rest) =
      some ((first :: later).map (fun part => (part.key, part.value)), rest) := by
  induction later generalizing first fuel with
  | nil =>
      have text : memberTexts [first] =
          renderText first.key ++ ':' :: (first.text ++ ['\x7d']) := by
        simp [memberTexts, separator]
      rw [text, List.length_append, List.length_cons, List.length_append,
        List.length_singleton] at enough
      obtain ⟨fuel, rfl⟩ : ∃ less, fuel = less + 1 := ⟨fuel - 1, by omega⟩
      rw [text, List.append_assoc, List.cons_append, List.append_assoc]
      apply readMembers_last
      exact spells first List.mem_cons_self fuel _ (by omega) (EndsNumber.cons (by decide) rest)
  | cons second later ih =>
      have text : memberTexts (first :: second :: later) =
          renderText first.key ++ ':' :: (first.text ++ ',' :: memberTexts (second :: later)) := by
        rw [memberTexts]
        simp [separator]
      rw [text, List.length_append, List.length_cons, List.length_append,
        List.length_cons] at enough
      obtain ⟨fuel, rfl⟩ : ∃ less, fuel = less + 1 := ⟨fuel - 1, by omega⟩
      rw [text, List.append_assoc, List.cons_append, List.append_assoc, List.cons_append]
      apply readMembers_more
      · exact spells first List.mem_cons_self fuel _ (by omega)
          (EndsNumber.cons (by decide) _)
      · exact ih (fun part member => spells part (List.mem_cons_of_mem _ member)) fuel (by omega)

theorem spells_object {first : MemberText} {later : List MemberText}
    (spells : ∀ part ∈ first :: later, Spells part.text part.value) :
    Spells ('\x7b' :: memberTexts (first :: later))
      (object ((first :: later).map (fun part => (part.key, part.value)))) := by
  intro fuel rest enough ends
  rw [List.length_cons] at enough
  obtain ⟨fuel, rfl⟩ : ∃ less, fuel = less + 1 := ⟨fuel - 1, by omega⟩
  have goesOn : expect '\x7d' (memberTexts (first :: later) ++ rest) = none := by
    rw [memberTexts, renderText]
    exact expect_other (by decide) (by decide) _
  rw [List.cons_append, readValue_cons (by decide), if_neg (by decide), if_neg (by decide),
    if_pos rfl, goesOn, readMembers_spelled spells fuel rest (by omega)]
  rfl

end Firmware.Json
