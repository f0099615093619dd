import HydroGovernor.Library.Utf8

/-! JSON texts: a reader for the whole grammar, a compact writer, and the round trip. -/

namespace Firmware

open Utf8 (Text)

/-- A number is `mantissa * 10 ^ exponent`. -/
inductive Json where
  | null
  | bool (value : Bool)
  | number (mantissa exponent : Int)
  | string (text : Text)
  | array (elements : List Json)
  | object (members : List (Text × Json))

namespace Json

/-! Reading -/

def isSpace (char : Char) : Bool :=
  char == ' ' || char == '\t' || char == '\n' || char == '\r'

def skipSpace (text : Text) : Text := text.dropWhile isSpace

/-- The text after `wanted`, which may have white space before it. -/
def expect (wanted : Char) (text : Text) : Option Text :=
  match skipSpace text with
  | [] => none
  | char :: rest => if char = wanted then some rest else none

def hexValue (char : Char) : Option Nat :=
  if char.isDigit then some (char.toNat - 48)
  else if 'a' ≤ char ∧ char ≤ 'f' then some (char.toNat - 87)
  else if 'A' ≤ char ∧ char ≤ 'F' then some (char.toNat - 55)
  else none

def hexUnit (first second third fourth : Char) : Option Nat := do
  let a ← hexValue first
  let b ← hexValue second
  let c ← hexValue third
  let d ← hexValue fourth
  some (((a * 16 + b) * 16 + c) * 16 + d)

def shortEscape (char : Char) : Option Nat :=
  if char = '"' ∨ char = '\\' ∨ char = '/' then some char.toNat
  else if char = 'b' then some 8
  else if char = 'f' then some 12
  else if char = 'n' then some 10
  else if char = 'r' then some 13
  else if char = 't' then some 9
  else none

/-- A string after its opening quote. An escape gives one UTF-16 unit, any other character its
scalar value. -/
def readUnits : Text → Option (List Nat × Text)
  | [] => none
  | char :: rest =>
      if char = '"' then some ([], rest)
      else if char = '\\' then
        match rest with
        | [] => none
        | escape :: escaped =>
            if escape = 'u' then
              match escaped with
              | first :: second :: third :: fourth :: after =>
                  (hexUnit first second third fourth).bind (fun unit =>
                    (readUnits after).map (fun read => (unit :: read.1, read.2)))
              | _ => none
            else
              (shortEscape escape).bind (fun unit =>
                (readUnits escaped).map (fun read => (unit :: read.1, read.2)))
      else if char.toNat < 0x20 then none
      else (readUnits rest).map (fun read => (char.toNat :: read.1, read.2))

def isHighSurrogate (unit : Nat) : Bool := 0xD800 ≤ unit && unit ≤ 0xDBFF
def isLowSurrogate (unit : Nat) : Bool := 0xDC00 ≤ unit && unit ≤ 0xDFFF

/-- Escaped surrogates come in pairs; one alone is no scalar value. -/
def joinUnits : List Nat → Option Text
  | [] => some []
  | unit :: rest =>
      if isHighSurrogate unit then
        match rest with
        | [] => none
        | low :: after =>
            if isLowSurrogate low then
              (joinUnits after).map
                (Char.ofNat (0x10000 + (unit - 0xD800) * 0x400 + (low - 0xDC00)) :: ·)
            else none
      else if isLowSurrogate unit then none
      else (joinUnits rest).map (Char.ofNat unit :: ·)

def readText (text : Text) : Option (Text × Text) :=
  (readUnits text).bind (fun read => (joinUnits read.1).map (fun chars => (chars, read.2)))

def readDigits (text : Text) : Option (Text × Text) :=
  if text.takeWhile Char.isDigit = [] then none
  else some (text.takeWhile Char.isDigit, text.dropWhile Char.isDigit)

def readSign (text : Text) : Bool × Text :=
  if text.head? = some '-' then (true, text.tail) else (false, text)

def readFraction (text : Text) : Option (Text × Text) :=
  if text.head? = some '.' then readDigits text.tail else some ([], text)

def signed (negative : Bool) (magnitude : Nat) : Int :=
  if negative then -(magnitude : Int) else magnitude

/-- The sign of an exponent may be a plus. -/
def readExponentSign (text : Text) : Bool × Text :=
  if text.head? = some '+' then (false, text.tail) else readSign text

def readExponent (text : Text) : Option (Int × Text) :=
  if text.head? = some 'e' ∨ text.head? = some 'E' then
    (readDigits (readExponentSign text.tail).2).map (fun read =>
      (signed (readExponentSign text.tail).1 (Nat.ofDigitChars 10 read.1 0), read.2))
  else some (0, text)

def readNumber (text : Text) : Option (Json × Text) :=
  (readDigits (readSign text).2).bind (fun integer =>
    if integer.1.head? = some '0' ∧ 1 < integer.1.length then none
    else (readFraction integer.2).bind (fun fraction =>
      (readExponent fraction.2).map (fun exponent =>
        (number (signed (readSign text).1 (Nat.ofDigitChars 10 (integer.1 ++ fraction.1) 0))
          (exponent.1 - fraction.1.length), exponent.2))))

def readName (name : Text) (value : Json) (text : Text) : Option (Json × Text) :=
  if name.isPrefixOf text then some (value, text.drop name.length) else none

mutual

def readValue : Nat → Text → Option (Json × Text)
  | 0, _ => none
  | fuel + 1, text =>
      match skipSpace text with
      | [] => none
      | char :: rest =>
          if char = '"' then (readText rest).map (fun read => (string read.1, read.2))
          else if char = '[' then
            match expect ']' rest with
            | some after => some (array [], after)
            | none => (readElements fuel rest).map (fun read => (array read.1, read.2))
          else if char = '\x7b' then
            match expect '\x7d' rest with
            | some after => some (object [], after)
            | none => (readMembers fuel rest).map (fun read => (object read.1, read.2))
          else if char = 'n' then readName ['u', 'l', 'l'] null rest
          else if char = 't' then readName ['r', 'u', 'e'] (bool true) rest
          else if char = 'f' then readName ['a', 'l', 's', 'e'] (bool false) rest
          else readNumber (char :: rest)

def readElements : Nat → Text → Option (List Json × Text)
  | 0, _ => none
  | fuel + 1, text =>
      match readValue fuel text with
      | none => none
      | some (element, rest) =>
          match expect ',' rest with
          | some more => (readElements fuel more).map (fun read => (element :: read.1, read.2))
          | none => (expect ']' rest).map (fun after => ([element], after))

def readMembers : Nat → Text → Option (List (Text × Json) × Text)
  | 0, _ => none
  | fuel + 1, text =>
      match (expect '"' text).bind readText with
      | none => none
      | some (key, afterKey) =>
          match (expect ':' afterKey).bind (readValue fuel) with
          | none => none
          | some (value, rest) =>
              match expect ',' rest with
              | some more =>
                  (readMembers fuel more).map (fun read => ((key, value) :: read.1, read.2))
              | none => (expect '\x7d' rest).map (fun after => ([(key, value)], after))

end

/-- Each call of a reader takes a character or is the first of its value, so twice the length
of the text is fuel enough. -/
def read (text : Text) : Option Json :=
  (readValue (2 * text.length) text).bind (fun result =>
    if skipSpace result.2 = [] then some result.1 else none)

def member (key : Text) : Json → Option Json
  | object members => members.reverse.lookup key
  | _ => none

/-- Whether JavaScript takes a member for true in a condition. -/
def truthy : Option Json → Bool
  | none | some null => false
  | some (bool value) => value
  | some (number mantissa _) => mantissa != 0
  | some (string text) => !text.isEmpty
  | some (array _) | some (object _) => true

/-! Writing -/

def renderChar (char : Char) : Text :=
  if char = '"' ∨ char = '\\' then ['\\', char]
  else if char.toNat < 0x20 then
    ['\\', 'u', '0', '0', Nat.digitChar (char.toNat / 16), Nat.digitChar (char.toNat % 16)]
  else [char]

def renderText (text : Text) : Text := '"' :: (text.flatMap renderChar ++ ['"'])

def renderInt (value : Int) : Text :=
  if value < 0 then '-' :: Nat.toDigits 10 value.natAbs else Nat.toDigits 10 value.natAbs

def renderNumber (mantissa exponent : Int) : Text :=
  renderInt mantissa ++ if exponent = 0 then [] else 'e' :: renderInt exponent

def separator {α : Type} (later : List α) : Text := if later.isEmpty then [] else [',']

mutual

def render : Json → Text
  | null => ['n', 'u', 'l', 'l']
  | bool value => if value then ['t', 'r', 'u', 'e'] else ['f', 'a', 'l', 's', 'e']
  | number mantissa exponent => renderNumber mantissa exponent
  | string text => renderText text
  | array elements => '[' :: renderElements elements
  | object members => '\x7b' :: renderMembers members

def renderElements : List Json → Text
  | [] => [']']
  | element :: later => render element ++ (separator later ++ renderElements later)

def renderMembers : List (Text × Json) → Text
  | [] => ['\x7d']
  | (key, value) :: later =>
      renderText key ++ ':' :: (render value ++ (separator later ++ renderMembers later))

end

/-! Strings -/

theorem skipSpace_cons {char : Char} (solid : isSpace char = false) (rest : Text) :
    skipSpace (char :: rest) = char :: rest := by
  simp [skipSpace, solid]

theorem expect_self {char : Char} (solid : isSpace char = false) (rest : Text) :
    expect char (char :: rest) = some rest := by
  simp [expect, skipSpace_cons solid]

theorem expect_other {wanted char : Char} (solid : isSpace char = false)
    (different : char ≠ wanted) (rest : Text) : expect wanted (char :: rest) = none := by
  simp [expect, skipSpace_cons solid, different]

theorem hexValue_digitChar : ∀ digit < 16, hexValue (Nat.digitChar digit) = some digit := by
  decide

theorem readUnits_quote (rest : Text) : readUnits ('"' :: rest) = some ([], rest) := by
  rw [readUnits.eq_def]
  simp

theorem readUnits_plain {char : Char} (notQuote : char ≠ '"') (notBackslash : char ≠ '\\')
    (printable : ¬ char.toNat < 0x20) (rest : Text) :
    readUnits (char :: rest) =
      (readUnits rest).map (fun read => (char.toNat :: read.1, read.2)) := by
  rw [readUnits.eq_def]
  simp only [notQuote, notBackslash, printable, if_false]

theorem readUnits_short {escape : Char} {unit : Nat} (notUnit : escape ≠ 'u')
    (short : shortEscape escape = some unit) (rest : Text) :
    readUnits ('\\' :: escape :: rest) =
      (readUnits rest).map (fun read => (unit :: read.1, read.2)) := by
  rw [readUnits.eq_def]
  simp [notUnit, short]

theorem readUnits_unit {first second third fourth : Char} {unit : Nat}
    (hex : hexUnit first second third fourth = some unit) (rest : Text) :
    readUnits ('\\' :: 'u' :: first :: second :: third :: fourth :: rest) =
      (readUnits rest).map (fun read => (unit :: read.1, read.2)) := by
  rw [readUnits.eq_def]
  simp [hex]

theorem readUnits_renderChar (char : Char) (rest : Text) :
    readUnits (renderChar char ++ rest) =
      (readUnits rest).map (fun read => (char.toNat :: read.1, read.2)) := by
  unfold renderChar
  split
  · rename_i special
    rcases special with rfl | rfl
    · exact readUnits_short (by decide) (by decide) rest
    · exact readUnits_short (by decide) (by decide) rest
  · rename_i plain
    obtain ⟨notQuote, notBackslash⟩ := not_or.mp plain
    split
    · have high := hexValue_digitChar (char.toNat / 16) (by omega)
      have low := hexValue_digitChar (char.toNat % 16) (by omega)
      have zero : hexValue '0' = some 0 := by decide
      have joined : ((0 * 16 + 0) * 16 + char.toNat / 16) * 16 + char.toNat % 16 =
        char.toNat := by omega
      have unit : hexUnit '0' '0' (Nat.digitChar (char.toNat / 16))
          (Nat.digitChar (char.toNat % 16)) = some char.toNat := by
        simp only [hexUnit, zero, high, low, Option.bind_eq_bind, Option.bind_some, joined]
      exact readUnits_unit unit rest
    · rename_i printable
      exact readUnits_plain notQuote notBackslash printable rest

theorem readUnits_render (text rest : Text) :
    readUnits (text.flatMap renderChar ++ '"' :: rest) = some (text.map Char.toNat, rest) := by
  induction text with
  | nil => exact readUnits_quote rest
  | cons char text ih =>
      rw [List.flatMap_cons, List.append_assoc, readUnits_renderChar, ih]
      rfl

theorem joinUnits_scalars (text : Text) : joinUnits (text.map Char.toNat) = some text := by
  induction text with
  | nil => rfl
  | cons char text ih =>
      have bounds := Utf8.scalar_bounds char
      have notHigh : isHighSurrogate char.toNat = false := by
        simp only [isHighSurrogate, Bool.and_eq_false_iff, decide_eq_false_iff_not]
        omega
      have notLow : isLowSurrogate char.toNat = false := by
        simp only [isLowSurrogate, Bool.and_eq_false_iff, decide_eq_false_iff_not]
        omega
      rw [List.map_cons, joinUnits.eq_def]
      simp [notHigh, notLow, ih]

theorem readText_render (text rest : Text) :
    readText (text.flatMap renderChar ++ '"' :: rest) = some (text, rest) := by
  rw [readText, readUnits_render, Option.bind_some, joinUnits_scalars]
  rfl

/-! Numbers -/

/-- The text does not go on with the number before it. -/
def EndsNumber (rest : Text) : Prop :=
  ∀ char, rest.head? = some char →
    char.isDigit = false ∧ char ≠ '.' ∧ char ≠ 'e' ∧ char ≠ 'E'

theorem EndsNumber.nil : EndsNumber [] := by
  intro char first
  cases first

theorem EndsNumber.cons {char : Char} (ends : char.isDigit = false ∧ char ≠ '.' ∧ char ≠ 'e' ∧
    char ≠ 'E') (rest : Text) : EndsNumber (char :: rest) := by
  intro first isFirst
  cases isFirst
  exact ends

theorem toDigits_isDigit (value : Nat) :
    ∀ char ∈ Nat.toDigits 10 value, char.isDigit = true := by
  intro char member
  exact Nat.isDigit_of_mem_toDigits (by decide) (by decide) member

theorem readDigits_toDigits (value : Nat) {rest : Text}
    (ends : ∀ char, rest.head? = some char → char.isDigit = false) :
    readDigits (Nat.toDigits 10 value ++ rest) = some (Nat.toDigits 10 value, rest) := by
  have stops : rest.takeWhile Char.isDigit = [] ∧ rest.dropWhile Char.isDigit = rest := by
    cases rest with
    | nil => exact ⟨rfl, rfl⟩
    | cons char rest => simp [ends char rfl]
  have digits := toDigits_isDigit value
  have taken : (Nat.toDigits 10 value ++ rest).takeWhile Char.isDigit = Nat.toDigits 10 value := by
    rw [List.takeWhile_append_of_pos digits, stops.1, List.append_nil]
  have dropped : (Nat.toDigits 10 value ++ rest).dropWhile Char.isDigit = rest := by
    rw [List.dropWhile_append_of_pos digits, stops.2]
  rw [readDigits, taken, dropped, if_neg Nat.toDigits_ne_nil]

theorem toDigits_leading (value : Nat) :
    (Nat.toDigits 10 value).head? = some '0' → value = 0 := by
  induction value using Nat.strong_induction_on with
  | h value ih =>
      intro leading
      by_cases small : value < 10
      · rw [Nat.toDigits_of_lt_base small] at leading
        have digit : ∀ digit < 10, Nat.digitChar digit = '0' → digit = 0 := by decide
        exact digit value small (Option.some.inj leading)
      · rw [Nat.toDigits_of_base_le (by decide) (by omega), List.head?_append,
          List.head?_eq_some_head Nat.toDigits_ne_nil] at leading
        have shorter := ih (value / 10) (by omega)
          (by rw [List.head?_eq_some_head Nat.toDigits_ne_nil]; exact leading)
        omega

theorem toDigits_canonical (value : Nat) :
    ¬((Nat.toDigits 10 value).head? = some '0' ∧ 1 < (Nat.toDigits 10 value).length) := by
  intro ⟨leading, long⟩
  rw [toDigits_leading value leading] at long
  exact absurd long (by decide)

theorem toDigits_head_ne {value : Nat} {char : Char} (other : char.isDigit = false) (rest : Text) :
    (Nat.toDigits 10 value ++ rest).head? ≠ some char := by
  rw [List.head?_append, List.head?_eq_some_head Nat.toDigits_ne_nil]
  intro same
  have digit := toDigits_isDigit value _ (List.head_mem Nat.toDigits_ne_nil)
  rw [Option.some.inj same, other] at digit
  cases digit

theorem readSign_renderInt (value : Int) (rest : Text) :
    readSign (renderInt value ++ rest) =
      (decide (value < 0), Nat.toDigits 10 value.natAbs ++ rest) := by
  by_cases negative : value < 0
  · simp [readSign, renderInt, negative]
  · rw [renderInt, if_neg negative, readSign, if_neg (toDigits_head_ne (by decide) rest)]
    simp [negative]

theorem signed_natAbs (value : Int) : signed (decide (value < 0)) value.natAbs = value := by
  by_cases negative : value < 0
  · simp only [signed, negative, decide_true, if_true]
    omega
  · simp only [signed, negative, decide_false, Bool.false_eq_true, if_false]
    omega

theorem readExponent_none {rest : Text} (ends : EndsNumber rest) :
    readExponent rest = some (0, rest) := by
  rw [readExponent, if_neg]
  rintro (lower | upper)
  · exact (ends _ lower).2.2.1 rfl
  · exact (ends _ upper).2.2.2 rfl

theorem readExponent_render {rest : Text} (ends : EndsNumber rest) (exponent : Int) :
    readExponent ((if exponent = 0 then [] else 'e' :: renderInt exponent) ++ rest) =
      some (exponent, rest) := by
  by_cases zero : exponent = 0
  · rw [if_pos zero, List.nil_append, readExponent_none ends, zero]
  · have noPlus : (renderInt exponent ++ rest).head? ≠ some '+' := by
      unfold renderInt
      split
      · simp
      · exact toDigits_head_ne (by decide) rest
    have sign : readExponentSign (renderInt exponent ++ rest) =
        (decide (exponent < 0), Nat.toDigits 10 exponent.natAbs ++ rest) := by
      rw [readExponentSign, if_neg noPlus, readSign_renderInt]
    rw [if_neg zero, List.cons_append, readExponent, List.head?_cons, if_pos (Or.inl rfl),
      List.tail_cons, sign]
    dsimp only
    rw [readDigits_toDigits _ (fun char first => (ends char first).1), Option.map_some,
      Nat.ofDigitChars_ten_toDigits, signed_natAbs]

theorem readNumber_render {rest : Text} (ends : EndsNumber rest) (mantissa exponent : Int) :
    readNumber (renderNumber mantissa exponent ++ rest) =
      some (number mantissa exponent, rest) := by
  have afterInteger : ∀ char,
      ((if exponent = 0 then [] else 'e' :: renderInt exponent) ++ rest).head? = some char →
        char.isDigit = false ∧ char ≠ '.' := by
    intro char first
    by_cases zero : exponent = 0
    · rw [if_pos zero, List.nil_append] at first
      exact ⟨(ends char first).1, (ends char first).2.1⟩
    · rw [if_neg zero] at first
      cases first
      decide
  have noPoint :
      ((if exponent = 0 then [] else 'e' :: renderInt exponent) ++ rest).head? ≠ some '.' :=
    fun point => (afterInteger _ point).2 rfl
  rw [readNumber, renderNumber, List.append_assoc, readSign_renderInt]
  dsimp only
  rw [readDigits_toDigits _ (fun char first => (afterInteger char first).1), Option.bind_some,
    if_neg (toDigits_canonical _), readFraction, if_neg noPoint, Option.bind_some,
    readExponent_render ends, Option.map_some]
  simp only [List.append_nil, Nat.ofDigitChars_ten_toDigits, signed_natAbs, List.length_nil,
    Nat.cast_zero, Int.sub_zero]

/-! Values -/

theorem readValue_cons {char : Char} (solid : isSpace char = false) (fuel : Nat) (rest : Text) :
    readValue (fuel + 1) (char :: rest) =
      if char = '"' then (readText rest).map (fun read => (string read.1, read.2))
      else if char = '[' then
        match expect ']' rest with
        | some after => some (array [], after)
        | none => (readElements fuel rest).map (fun read => (array read.1, read.2))
      else if char = '\x7b' then
        match expect '\x7d' rest with
        | some after => some (object [], after)
        | none => (readMembers fuel rest).map (fun read => (object read.1, read.2))
      else if char = 'n' then readName ['u', 'l', 'l'] null rest
      else if char = 't' then readName ['r', 'u', 'e'] (bool true) rest
      else if char = 'f' then readName ['a', 'l', 's', 'e'] (bool false) rest
      else readNumber (char :: rest) := by
  rw [readValue, skipSpace_cons solid]

def Numeric (char : Char) : Prop := char = '-' ∨ char.isDigit = true

theorem Numeric.ne {char other : Char} (numeric : Numeric char) (notMinus : other ≠ '-')
    (notDigit : other.isDigit = false) : char ≠ other := by
  rintro rfl
  rcases numeric with minus | digit
  · exact notMinus minus
  · rw [notDigit] at digit
    cases digit

theorem Numeric.solid {char : Char} (numeric : Numeric char) : isSpace char = false := by
  have space : char ≠ ' ' := numeric.ne (by decide) (by decide)
  have tab : char ≠ '\t' := numeric.ne (by decide) (by decide)
  have feed : char ≠ '\n' := numeric.ne (by decide) (by decide)
  have carriage : char ≠ '\r' := numeric.ne (by decide) (by decide)
  simp [isSpace, space, tab, feed, carriage]

theorem renderNumber_begins (mantissa exponent : Int) :
    ∃ char later, renderNumber mantissa exponent = char :: later ∧ Numeric char := by
  unfold renderNumber renderInt
  split
  · exact ⟨'-', _, rfl, Or.inl rfl⟩
  · have nonempty : Nat.toDigits 10 mantissa.natAbs ≠ [] := Nat.toDigits_ne_nil
    obtain ⟨digit, digits, split⟩ := List.exists_cons_of_ne_nil nonempty
    have isDigit := toDigits_isDigit mantissa.natAbs digit (by rw [split]; exact List.mem_cons_self)
    rw [split]
    exact ⟨digit, _, rfl, Or.inr isDigit⟩

theorem render_begins (value : Json) :
    ∃ char later, render value = char :: later ∧ isSpace char = false ∧ char ≠ ']' := by
  cases value with
  | null => exact ⟨'n', _, rfl, by decide, by decide⟩
  | bool value =>
      cases value with
      | false => exact ⟨'f', _, rfl, by decide, by decide⟩
      | true => exact ⟨'t', _, rfl, by decide, by decide⟩
  | number mantissa exponent =>
      obtain ⟨char, later, begins, numeric⟩ := renderNumber_begins mantissa exponent
      exact ⟨char, later, by rw [render, begins], numeric.solid,
        numeric.ne (by decide) (by decide)⟩
  | string text => exact ⟨'"', _, rfl, by decide, by decide⟩
  | array elements => exact ⟨'[', _, by rw [render], by decide, by decide⟩
  | object members => exact ⟨'\x7b', _, by rw [render], by decide, by decide⟩

theorem render_length_pos (value : Json) : 0 < (render value).length := by
  obtain ⟨char, later, begins, _⟩ := render_begins value
  rw [begins]
  exact Nat.succ_pos _

theorem readElements_last {fuel : Nat} {text rest : Text} {element : Json}
    (taken : readValue fuel text = some (element, ']' :: rest)) :
    readElements (fuel + 1) text = some ([element], rest) := by
  have noComma : expect ',' (']' :: rest) = none := expect_other (by decide) (by decide) rest
  have closes : expect ']' (']' :: rest) = some rest := expect_self (by decide) rest
  simp [readElements, taken, noComma, closes]

theorem readElements_more {fuel : Nat} {text more rest : Text} {element : Json}
    {later : List Json} (taken : readValue fuel text = some (element, ',' :: more))
    (tail : readElements fuel more = some (later, rest)) :
    readElements (fuel + 1) text = some (element :: later, rest) := by
  have comma : expect ',' (',' :: more) = some more := expect_self (by decide) more
  simp [readElements, taken, comma, tail]

theorem readKey_render (key rest : Text) :
    (expect '"' (renderText key ++ rest)).bind readText = some (key, rest) := by
  have quoted : renderText key ++ rest = '"' :: (key.flatMap renderChar ++ '"' :: rest) := by
    simp [renderText]
  rw [quoted, expect_self (by decide), Option.bind_some, readText_render]

theorem readMembers_last {fuel : Nat} {text rest : Text} {key : Text} {value : Json}
    (taken : readValue fuel text = some (value, '\x7d' :: rest)) :
    readMembers (fuel + 1) (renderText key ++ ':' :: text) = some ([(key, value)], rest) := by
  have colon : expect ':' (':' :: text) = some text := expect_self (by decide) text
  have noComma : expect ',' ('\x7d' :: rest) = none := expect_other (by decide) (by decide) rest
  have closes : expect '\x7d' ('\x7d' :: rest) = some rest := expect_self (by decide) rest
  simp [readMembers, readKey_render, colon, taken, noComma, closes]

theorem readMembers_more {fuel : Nat} {text more rest : Text} {key : Text} {value : Json}
    {later : List (Text × Json)} (taken : readValue fuel text = some (value, ',' :: more))
    (tail : readMembers fuel more = some (later, rest)) :
    readMembers (fuel + 1) (renderText key ++ ':' :: text) =
      some ((key, value) :: later, rest) := by
  have colon : expect ':' (':' :: text) = some text := expect_self (by decide) text
  have comma : expect ',' (',' :: more) = some more := expect_self (by decide) more
  simp [readMembers, readKey_render, colon, taken, comma, tail]

/-- With this much fuel every value that is not too long is read off any text that does not
go on with a number. -/
def ReadsValues (fuel : Nat) : Prop :=
  ∀ value rest, 2 * (render value).length ≤ fuel → EndsNumber rest →
    readValue fuel (render value ++ rest) = some (value, rest)

def ReadsElements (fuel : Nat) : Prop :=
  ∀ element later rest, 2 * (renderElements (element :: later)).length ≤ fuel →
    readElements fuel (renderElements (element :: later) ++ rest) = some (element :: later, rest)

def ReadsMembers (fuel : Nat) : Prop :=
  ∀ first later rest, 2 * (renderMembers (first :: later)).length ≤ fuel →
    readMembers fuel (renderMembers (first :: later) ++ rest) = some (first :: later, rest)

theorem readValue_numeric {char : Char} (numeric : Numeric char) (fuel : Nat) (rest : Text) :
    readValue (fuel + 1) (char :: rest) = readNumber (char :: rest) := by
  rw [readValue_cons numeric.solid,
    if_neg (numeric.ne (by decide) (by decide)), if_neg (numeric.ne (by decide) (by decide)),
    if_neg (numeric.ne (by decide) (by decide)), if_neg (numeric.ne (by decide) (by decide)),
    if_neg (numeric.ne (by decide) (by decide)), if_neg (numeric.ne (by decide) (by decide))]

theorem readValue_number (fuel : Nat) {rest : Text} (ends : EndsNumber rest)
    (mantissa exponent : Int) :
    readValue (fuel + 1) (renderNumber mantissa exponent ++ rest) =
      some (number mantissa exponent, rest) := by
  obtain ⟨char, later, begins, numeric⟩ := renderNumber_begins mantissa exponent
  have taken := readNumber_render ends mantissa exponent
  rw [begins, List.cons_append] at taken ⊢
  rw [readValue_numeric numeric, taken]

theorem readsValues_succ {fuel : Nat} (readsElements : ReadsElements fuel)
    (readsMembers : ReadsMembers fuel) : ReadsValues (fuel + 1) := by
  intro value rest enough ends
  cases value with
  | null => rfl
  | bool value => cases value <;> rfl
  | number mantissa exponent => exact readValue_number fuel ends mantissa exponent
  | string text =>
      have quoted : render (.string text) ++ rest =
          '"' :: (text.flatMap renderChar ++ '"' :: rest) := by
        simp [render, renderText]
      rw [quoted, readValue_cons (by decide), if_pos rfl, readText_render]
      rfl
  | array elements =>
      simp only [render, List.length_cons] at enough
      rw [render, List.cons_append, readValue_cons (by decide), if_neg (by decide), if_pos rfl]
      cases elements with
      | nil =>
          have closes : expect ']' (renderElements [] ++ rest) = some rest := by
            rw [renderElements]
            exact expect_self (by decide) rest
          rw [closes]
      | cons element later =>
          obtain ⟨char, after, begins, solid, notClosing⟩ := render_begins element
          have goesOn : expect ']' (renderElements (element :: later) ++ rest) = none := by
            rw [renderElements, begins]
            exact expect_other solid notClosing _
          rw [goesOn, readsElements element later rest (by omega)]
          rfl
  | object members =>
      simp only [render, List.length_cons] at enough
      rw [render, List.cons_append, readValue_cons (by decide), if_neg (by decide),
        if_neg (by decide), if_pos rfl]
      cases members with
      | nil =>
          have closes : expect '\x7d' (renderMembers [] ++ rest) = some rest := by
            rw [renderMembers]
            exact expect_self (by decide) rest
          rw [closes]
      | cons head later =>
          have goesOn : expect '\x7d' (renderMembers (head :: later) ++ rest) = none := by
            rw [renderMembers, renderText]
            exact expect_other (by decide) (by decide) _
          rw [goesOn, readsMembers head later rest (by omega)]
          rfl

theorem readsElements_succ {fuel : Nat} (readsValues : ReadsValues fuel)
    (readsElements : ReadsElements fuel) : ReadsElements (fuel + 1) := by
  intro element later rest enough
  have positive := render_length_pos element
  cases later with
  | nil =>
      have text : renderElements [element] = render element ++ [']'] := by
        simp [renderElements, separator]
      rw [text, List.length_append, List.length_singleton] at enough
      rw [text, List.append_assoc]
      apply readElements_last
      exact readsValues element _ (by omega) (EndsNumber.cons (by decide) rest)
  | cons second later =>
      have text : renderElements (element :: second :: later) =
          render element ++ ',' :: renderElements (second :: later) := by
        rw [renderElements]
        simp [separator]
      rw [text, List.length_append, List.length_cons] at enough
      rw [text, List.append_assoc, List.cons_append]
      apply readElements_more
      · exact readsValues element _ (by omega) (EndsNumber.cons (by decide) _)
      · exact readsElements second later rest (by omega)

theorem readsMembers_succ {fuel : Nat} (readsValues : ReadsValues fuel)
    (readsMembers : ReadsMembers fuel) : ReadsMembers (fuel + 1) := by
  intro first later rest enough
  obtain ⟨key, value⟩ := first
  cases later with
  | nil =>
      have text : renderMembers [(key, value)] =
          renderText key ++ ':' :: (render value ++ ['\x7d']) := by
        simp [renderMembers, separator]
      rw [text, List.length_append, List.length_cons, List.length_append,
        List.length_singleton] at enough
      rw [text, List.append_assoc, List.cons_append, List.append_assoc]
      apply readMembers_last
      exact readsValues value _ (by omega) (EndsNumber.cons (by decide) rest)
  | cons second later =>
      have text : renderMembers ((key, value) :: second :: later) =
          renderText key ++ ':' :: (render value ++ ',' :: renderMembers (second :: later)) := by
        rw [renderMembers]
        simp [separator]
      rw [text, List.length_append, List.length_cons, List.length_append,
        List.length_cons] at enough
      rw [text, List.append_assoc, List.cons_append, List.append_assoc, List.cons_append]
      apply readMembers_more
      · exact readsValues value _ (by omega) (EndsNumber.cons (by decide) _)
      · exact readsMembers second later rest (by omega)

theorem reads_render (fuel : Nat) :
    ReadsValues fuel ∧ ReadsElements fuel ∧ ReadsMembers fuel := by
  induction fuel with
  | zero =>
      refine ⟨?_, ?_, ?_⟩
      · intro value rest enough
        have positive := render_length_pos value
        omega
      · intro element later rest enough
        rw [renderElements, List.length_append] at enough
        have positive := render_length_pos element
        omega
      · intro first later rest enough
        rw [renderMembers, List.length_append, List.length_cons] at enough
        omega
  | succ fuel ih =>
      obtain ⟨values, elements, members⟩ := ih
      exact ⟨readsValues_succ elements members, readsElements_succ values elements,
        readsMembers_succ values members⟩

theorem read_render (value : Json) : read (render value) = some value := by
  have taken := (reads_render _).1 value [] (le_refl (2 * (render value).length)) EndsNumber.nil
  rw [List.append_nil] at taken
  rw [read, taken]
  rfl

end Json

end Firmware
