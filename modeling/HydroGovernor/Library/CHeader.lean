import HydroGovernor.Library.Json

/-! Headers that define byte arrays and sizes, a definition on each line, as a C compiler reads
them. -/

namespace Firmware.CHeader

open Utf8 (Text)

inductive Definition where
  | bytes (name : Text) (values : Bytes)
  | size (name : Text) (value : Nat)
  deriving DecidableEq, Repr

def strip (text : Text) : Text :=
  ((text.dropWhile (· == ' ')).reverse.dropWhile (· == ' ')).reverse

def skip (beginning text : Text) : Option Text :=
  if beginning.isPrefixOf text then some (text.drop beginning.length) else none

/-- A constant `0x` with two digits. -/
def readByte : Text → Option UInt8
  | ['0', 'x', high, low] =>
      (Json.hexValue high).bind (fun high =>
        (Json.hexValue low).map (fun low => UInt8.ofNat (16 * high + low)))
  | _ => none

/-- The constants of an initializer. -/
def readItems (body : Text) : Option Bytes :=
  if body.all (· == ' ') then some []
  else ((body.splitOn ',').map strip).mapM readByte

def readArray (line : Text) : Option Definition :=
  (skip "const uint8_t ".toList line).bind (fun rest =>
    (skip "[] = \x7b".toList (rest.dropWhile (· != '['))).bind (fun tail =>
      if "\x7d;".toList.isPrefixOf (tail.dropWhile (· != '\x7d')) then
        (readItems (tail.takeWhile (· != '\x7d'))).map (fun values =>
          .bytes (rest.takeWhile (· != '[')) values)
      else none))

def readSize (line : Text) : Option Definition :=
  (skip "const size_t ".toList line).bind (fun rest =>
    (skip " = ".toList (rest.dropWhile (· != ' '))).bind (fun tail =>
      (Json.readDigits tail).bind (fun digits =>
        if digits.2.head? = some ';' then
          some (.size (rest.takeWhile (· != ' ')) (Nat.ofDigitChars 10 digits.1 0))
        else none)))

/-- The compiler takes the two characters at the end of a line for one. -/
def joinReturns : Text → Text
  | '\r' :: '\n' :: rest => '\n' :: joinReturns rest
  | char :: rest => char :: joinReturns rest
  | [] => []

/-- Comments and directives define nothing. -/
def readHeader (text : Text) : List Definition :=
  ((joinReturns text).splitOn '\n').filterMap (fun line => (readArray line).or (readSize line))

/-! Ends of lines -/

/-- Every carriage return belongs to the end of a line. -/
def PairedReturns (text : Text) : Prop :=
  ∀ front back, text = front ++ '\r' :: back → back.head? = some '\n'

theorem PairedReturns.tail {char : Char} {rest : Text} (paired : PairedReturns (char :: rest)) :
    PairedReturns rest :=
  fun front back split => paired (char :: front) back (by rw [split, List.cons_append])

theorem joinReturns_cons {char : Char} (other : char ≠ '\r') (rest : Text) :
    joinReturns (char :: rest) = char :: joinReturns rest := by
  rw [joinReturns]
  rintro more ⟨⟩
  exact absurd rfl other

theorem joinReturns_of_none {text : Text} (none : '\r' ∉ text) : joinReturns text = text := by
  induction text with
  | nil => rfl
  | cons char rest ih =>
      rw [List.mem_cons, not_or] at none
      rw [joinReturns_cons (Ne.symm none.1), ih none.2]

theorem not_mem_intercalate {mark : Char} {separator : Text} {pieces : List Text}
    (between : mark ∉ separator) (inside : ∀ piece ∈ pieces, mark ∉ piece) :
    mark ∉ separator.intercalate pieces := by
  induction pieces with
  | nil => exact List.not_mem_nil
  | cons piece rest ih =>
      have later := ih (fun other member => inside other (List.mem_cons_of_mem _ member))
      have here := inside piece List.mem_cons_self
      cases rest with
      | nil =>
          rw [List.intercalate_singleton]
          exact here
      | cons second rest =>
          rw [List.intercalate_cons_cons, List.mem_append, List.mem_append, not_or, not_or]
          exact ⟨⟨here, between⟩, later⟩

def splitReturns (text : Text) : Text :=
  text.flatMap (fun char => if char = '\n' then ['\r', '\n'] else [char])

theorem PairedReturns.cons {char : Char} {rest : Text} (paired : PairedReturns rest)
    (ends : char = '\r' → rest.head? = some '\n') : PairedReturns (char :: rest) := by
  intro front back split
  cases front with
  | nil =>
      obtain ⟨isReturn, rfl⟩ := List.cons.inj split
      exact ends isReturn
  | cons _ front => exact paired front back (List.cons.inj split).2

theorem paired_split {text : Text} (none : '\r' ∉ text) : PairedReturns (splitReturns text) := by
  induction text with
  | nil =>
      intro front back split
      exact absurd (congrArg List.length split) (by simp [splitReturns])
  | cons char rest ih =>
      rw [List.mem_cons, not_or] at none
      have later := ih none.2
      unfold splitReturns at later ⊢
      rw [List.flatMap_cons]
      split
      · exact (later.cons (fun isReturn => absurd isReturn (by decide))).cons (fun _ => rfl)
      · exact later.cons (fun isReturn => absurd isReturn.symm none.1)

theorem joinReturns_split {text : Text} (none : '\r' ∉ text) :
    joinReturns (splitReturns text) = text := by
  induction text with
  | nil => rfl
  | cons char rest ih =>
      rw [List.mem_cons, not_or] at none
      have later := ih none.2
      unfold splitReturns at later ⊢
      rw [List.flatMap_cons]
      split
      · rename_i newline
        rw [newline]
        exact congrArg _ later
      · rw [List.singleton_append, joinReturns_cons (Ne.symm none.1), later]

/-! Writing -/

/-- `f"0x\x7bb:02x\x7d"` -/
def writeByte (byte : UInt8) : Text :=
  ['0', 'x', Nat.digitChar (byte.toNat / 16), Nat.digitChar (byte.toNat % 16)]

def writeItems (values : Bytes) : Text := ", ".toList.intercalate (values.map writeByte)

theorem readByte_write (byte : UInt8) : readByte (writeByte byte) = some byte := by
  have bound := byte.toNat_lt
  rw [writeByte, readByte, Json.hexValue_digitChar _ (by omega),
    Json.hexValue_digitChar _ (by omega)]
  have value : 16 * (byte.toNat / 16) + byte.toNat % 16 = byte.toNat := by omega
  rw [Option.bind_some, Option.map_some, value, UInt8.ofNat_toNat]

def constantChars : Text := "0123456789abcdefx".toList

theorem writeByte_chars (byte : UInt8) : ∀ char ∈ writeByte byte, char ∈ constantChars := by
  have digit : ∀ value < 16, Nat.digitChar value ∈ constantChars := by decide
  have bound := byte.toNat_lt
  intro char member
  simp only [writeByte, List.mem_cons, List.not_mem_nil, or_false] at member
  rcases member with rfl | rfl | rfl | rfl
  · decide
  · decide
  · exact digit _ (by omega)
  · exact digit _ (by omega)

theorem writeByte_clean (byte : UInt8) {char : Char} (other : char ∉ constantChars) :
    char ∉ writeByte byte :=
  fun member => other (writeByte_chars byte char member)

theorem strip_spaced {word tail : Text} (solid : ' ' ∉ word) (spaces : ∀ char ∈ tail, char = ' ') :
    strip (' ' :: (word ++ tail)) = word := by
  have blank : ∀ char ∈ tail, (char == ' ') = true := fun char member =>
    beq_iff_eq.mpr (spaces char member)
  have front (text : Text) (noBlank : ' ' ∉ text) : text.dropWhile (· == ' ') = text := by
    cases text with
    | nil => rfl
    | cons char rest =>
        have apart : char ≠ ' ' := fun same => noBlank (same ▸ List.mem_cons_self)
        rw [List.dropWhile_cons_of_neg (by simpa using apart)]
  cases word with
  | nil =>
      rw [strip, List.nil_append, List.dropWhile_cons_of_pos rfl,
        List.dropWhile_eq_nil_iff.mpr blank]
      rfl
  | cons char rest =>
      have apart : char ≠ ' ' := fun same => solid (same ▸ List.mem_cons_self)
      have back : ∀ char ∈ tail.reverse, (char == ' ') = true := fun char member =>
        blank char (List.mem_reverse.mp member)
      rw [strip, List.dropWhile_cons_of_pos rfl, List.cons_append,
        List.dropWhile_cons_of_neg (by simpa using apart), ← List.cons_append, List.reverse_append,
        List.dropWhile_append_of_pos back,
        front _ (fun member => solid (List.mem_reverse.mp member)), List.reverse_reverse]

/-- The constants between the braces, split at the commas. -/
theorem split_items (byte : UInt8) (rest : Bytes) :
    ((' ' :: (writeItems (byte :: rest) ++ [' '])).splitOn ',').map strip =
      (byte :: rest).map writeByte := by
  induction rest generalizing byte with
  | nil =>
      have single : writeItems [byte] = writeByte byte := List.intercalate_singleton
      have clean : ',' ∉ ' ' :: (writeByte byte ++ [' ']) := by
        simp [writeByte_clean byte (show ',' ∉ constantChars by decide)]
      rw [single, List.splitOn_eq_singleton clean, List.map_singleton,
        strip_spaced (writeByte_clean byte (by decide)) (by simp)]
      rfl
  | cons second rest ih =>
      have more : ' ' :: (writeItems (byte :: second :: rest) ++ [' ']) =
          (' ' :: writeByte byte) ++ ',' :: (' ' :: (writeItems (second :: rest) ++ [' '])) := by
        simp [writeItems, List.intercalate_cons_cons]
      have clean : ',' ∉ ' ' :: writeByte byte := by
        simp [writeByte_clean byte (show ',' ∉ constantChars by decide)]
      have word : strip (' ' :: (writeByte byte ++ [])) = writeByte byte :=
        strip_spaced (writeByte_clean byte (by decide)) (by simp)
      rw [List.append_nil] at word
      rw [more, List.splitOn_append_cons_self_of_not_mem clean, List.map_cons, ih second, word,
        List.map_cons (l := second :: rest)]

theorem readItems_write (byte : UInt8) (rest : Bytes) :
    readItems (' ' :: (writeItems (byte :: rest) ++ [' '])) = some (byte :: rest) := by
  have read (values : Bytes) : (values.map writeByte).mapM readByte = some values := by
    induction values with
    | nil => rfl
    | cons value values ih =>
        rw [List.map_cons, List.mapM_cons, readByte_write, ih]
        rfl
  have begins : ∃ later, writeItems (byte :: rest) = '0' :: later := by
    cases rest with
    | nil => exact ⟨_, List.intercalate_singleton⟩
    | cons second rest => exact ⟨_, List.intercalate_cons_cons⟩
  have solid : (' ' :: (writeItems (byte :: rest) ++ [' '])).all (· == ' ') = false := by
    obtain ⟨later, begins⟩ := begins
    simp [begins]
  rw [readItems, solid, if_neg Bool.false_ne_true, split_items, read]

theorem cut_mark {piece : Text} {mark : Char} (clean : mark ∉ piece) (rest : Text) :
    (piece ++ mark :: rest).takeWhile (· != mark) = piece ∧
      (piece ++ mark :: rest).dropWhile (· != mark) = mark :: rest := by
  have other : ∀ char ∈ piece, (char != mark) = true := fun char member =>
    bne_iff_ne.mpr (fun same => clean (same ▸ member))
  constructor
  · rw [List.takeWhile_append_of_pos other, List.takeWhile_cons_of_neg (by simp), List.append_nil]
  · rw [List.dropWhile_append_of_pos other, List.dropWhile_cons_of_neg (by simp)]

theorem skip_append (beginning rest : Text) : skip beginning (beginning ++ rest) = some rest := by
  rw [skip, if_pos (List.isPrefixOf_iff_prefix.mpr (List.prefix_append _ _)), List.drop_left]

theorem writeItems_clean (values : Bytes) {char : Char} (other : char ∉ constantChars)
    (notComma : char ≠ ',') (notSpace : char ≠ ' ') : char ∉ writeItems values := by
  induction values with
  | nil => exact List.not_mem_nil
  | cons value rest ih =>
      have here := writeByte_clean value other
      cases rest with
      | nil =>
          rw [writeItems, List.map_singleton, List.intercalate_singleton]
          exact here
      | cons second rest =>
          have more : writeItems (value :: second :: rest) =
              writeByte value ++ (", ".toList ++ writeItems (second :: rest)) := by
            simp [writeItems, List.intercalate_cons_cons]
          rw [more]
          simp [here, ih, notComma, notSpace]

theorem readArray_body {name body : Text} (named : '[' ∉ name) (closed : '\x7d' ∉ body)
    (comment : Text) :
    readArray ("const uint8_t ".toList ++
        (name ++ '[' :: ("] = \x7b".toList ++ (body ++ '\x7d' :: ';' :: comment)))) =
      (readItems body).map (Definition.bytes name) := by
  obtain ⟨before, after⟩ :=
    cut_mark named ("] = \x7b".toList ++ (body ++ '\x7d' :: ';' :: comment))
  obtain ⟨inner, outer⟩ := cut_mark closed (';' :: comment)
  have opening : skip "[] = \x7b".toList
      ('[' :: ("] = \x7b".toList ++ (body ++ '\x7d' :: ';' :: comment))) =
        some (body ++ '\x7d' :: ';' :: comment) := skip_append "[] = \x7b".toList _
  rw [readArray, skip_append, Option.bind_some, after, opening, Option.bind_some, outer, inner,
    before]
  rfl

theorem readArray_items {name : Text} (named : '[' ∉ name) (byte : UInt8) (rest : Bytes)
    (comment : Text) :
    readArray ("const uint8_t ".toList ++ name ++ "[] = \x7b ".toList ++
        writeItems (byte :: rest) ++ " \x7d;".toList ++ comment) =
      some (.bytes name (byte :: rest)) := by
  have closed : '\x7d' ∉ ' ' :: (writeItems (byte :: rest) ++ [' ']) := by
    simp [writeItems_clean (byte :: rest) (show '\x7d' ∉ constantChars by decide)]
  have body := readArray_body named closed comment
  rw [readItems_write, Option.map_some] at body
  rw [← body]
  simp

theorem readArray_empty {name : Text} (named : '[' ∉ name) (comment : Text) :
    readArray ("const uint8_t ".toList ++ name ++ "[] = \x7b\x7d;".toList ++ comment) =
      some (.bytes name []) := by
  have body := readArray_body named (show '\x7d' ∉ ([] : Text) by simp) comment
  rw [show readItems [] = some [] from rfl, Option.map_some] at body
  rw [← body]
  simp

theorem readSize_digits {name : Text} (named : ' ' ∉ name) (value : Nat) (comment : Text) :
    readSize ("const size_t ".toList ++ name ++ " = ".toList ++ Nat.toDigits 10 value ++
      ";".toList ++ comment) = some (.size name value) := by
  have shape : "const size_t ".toList ++ name ++ " = ".toList ++ Nat.toDigits 10 value ++
      ";".toList ++ comment = "const size_t ".toList ++
        (name ++ ' ' :: ("= ".toList ++ (Nat.toDigits 10 value ++ ';' :: comment))) := by simp
  obtain ⟨before, after⟩ :=
    cut_mark named ("= ".toList ++ (Nat.toDigits 10 value ++ ';' :: comment))
  have opening : skip " = ".toList
      (' ' :: ("= ".toList ++ (Nat.toDigits 10 value ++ ';' :: comment))) =
        some (Nat.toDigits 10 value ++ ';' :: comment) := skip_append " = ".toList _
  have digits : Json.readDigits (Nat.toDigits 10 value ++ ';' :: comment) =
      some (Nat.toDigits 10 value, ';' :: comment) := by
    refine Json.readDigits_toDigits value (fun char is => ?_)
    cases is
    rfl
  rw [shape, readSize, skip_append, Option.bind_some, after, opening, Option.bind_some, digits,
    before]
  simp [Nat.ofDigitChars_ten_toDigits]

end Firmware.CHeader
