import HydroGovernor.Library.Utf8

/-! Fragments of HTML that hold elements with text in them: a reader, a writer, and the round
trip. -/

namespace Firmware.Html

open Utf8 (Text)

/-- An element with text in it. -/
structure Element where
  name : Text
  attributes : List (Text × Text)
  content : Text
  deriving DecidableEq, Repr

namespace Element

def getAttribute (element : Element) (name : Text) : Option Text := element.attributes.lookup name

end Element

/-! Reading -/

/-- How a reader resolves what stands behind an ampersand: the characters meant and the text after
the reference. Every reader knows these four references. -/
structure References where
  read : Text → Option (Text × Text)
  amp : ∀ rest, read ('a' :: 'm' :: 'p' :: ';' :: rest) = some (['&'], rest)
  lt : ∀ rest, read ('l' :: 't' :: ';' :: rest) = some (['<'], rest)
  gt : ∀ rest, read ('g' :: 't' :: ';' :: rest) = some (['>'], rest)
  quot : ∀ rest, read ('q' :: 'u' :: 'o' :: 't' :: ';' :: rest) = some (['"'], rest)

def References.basic : References where
  read
    | 'a' :: 'm' :: 'p' :: ';' :: rest => some (['&'], rest)
    | 'l' :: 't' :: ';' :: rest => some (['<'], rest)
    | 'g' :: 't' :: ';' :: rest => some (['>'], rest)
    | 'q' :: 'u' :: 'o' :: 't' :: ';' :: rest => some (['"'], rest)
    | _ => none
  amp _ := rfl
  lt _ := rfl
  gt _ := rfl
  quot _ := rfl

/-- An ampersand that begins no reference stands for itself. -/
def resolveFrom (references : References) : Nat → Text → Text
  | 0, _ => []
  | _ + 1, [] => []
  | fuel + 1, char :: rest =>
      if char = '&' then
        match references.read rest with
        | some (meant, after) => meant ++ resolveFrom references fuel after
        | none => char :: resolveFrom references fuel rest
      else char :: resolveFrom references fuel rest

def resolve (references : References) (raw : Text) : Text :=
  resolveFrom references raw.length raw

def nameChar (char : Char) : Bool := char.isLower || char.isDigit || char == '-'

/-- Characters that the preprocessing of HTML leaves alone. -/
def plainChar (char : Char) : Bool := 0x20 ≤ char.toNat

def readName (text : Text) : Option (Text × Text) :=
  if text.takeWhile nameChar = [] then none
  else some (text.takeWhile nameChar, text.dropWhile nameChar)

/-- The text up to the mark, which no reference contains, and the text from the mark on. -/
def readUntil (references : References) (mark : Char) (text : Text) : Option (Text × Text) :=
  if (text.takeWhile (· != mark)).all plainChar then
    some (resolve references (text.takeWhile (· != mark)), text.dropWhile (· != mark))
  else none

/-- The attributes and the end of a start tag. -/
def readAttributes (references : References) : Nat → Text → Option (List (Text × Text) × Text)
  | fuel + 1, ' ' :: text =>
      match readName text with
      | some (name, '=' :: '"' :: quoted) =>
          match readUntil references '"' quoted with
          | some (value, '"' :: rest) =>
              (readAttributes references fuel rest).map
                (fun read => ((name, value) :: read.1, read.2))
          | _ => none
      | _ => none
  | _, '>' :: rest => some ([], rest)
  | _, _ => none

def ordinary : List Text := ["div".toList, "span".toList, "strong".toList]

def endTag (name : Text) : Text := '<' :: '/' :: (name ++ ['>'])

def readElement (references : References) : Text → Option (Element × Text)
  | '<' :: text =>
      match readName text with
      | some (name, behind) =>
          if name ∈ ordinary then
            match readAttributes references behind.length behind with
            | some (attributes, inside) =>
                match readUntil references '<' inside with
                | some (content, rest) =>
                    if (endTag name).isPrefixOf rest then
                      some (⟨name, attributes, content⟩, rest.drop (endTag name).length)
                    else none
                | none => none
            | none => none
          else none
      | none => none
  | _ => none

def readElements (references : References) : Nat → Text → Option (List Element)
  | _, [] => some []
  | 0, _ :: _ => none
  | fuel + 1, text =>
      (readElement references text).bind (fun read =>
        (readElements references fuel read.2).map (read.1 :: ·))

/-- `none` where the markup is none of elements with text in them. -/
def readFragment (references : References) (text : Text) : Option (List Element) :=
  readElements references text.length text

/-! Writing -/

def escapeChar (char : Char) : Text :=
  if char = '&' then ['&', 'a', 'm', 'p', ';']
  else if char = '<' then ['&', 'l', 't', ';']
  else if char = '>' then ['&', 'g', 't', ';']
  else if char = '"' then ['&', 'q', 'u', 'o', 't', ';']
  else [char]

def escape (text : Text) : Text := text.flatMap escapeChar

def renderAttribute (pair : Text × Text) : Text :=
  ' ' :: (pair.1 ++ '=' :: '"' :: (escape pair.2 ++ ['"']))

def render (element : Element) : Text :=
  '<' :: (element.name ++ (element.attributes.flatMap renderAttribute ++
    '>' :: (escape element.content ++ endTag element.name)))

structure Element.Clean (element : Element) : Prop where
  name : element.name ∈ ordinary
  names : ∀ pair ∈ element.attributes, pair.1 ≠ [] ∧ pair.1.all nameChar = true
  values : ∀ pair ∈ element.attributes, pair.2.all plainChar = true
  content : element.content.all plainChar = true

/-! The round trip -/

variable (references : References)

theorem escapeChar_plain {char : Char} (plain : plainChar char = true) :
    ∀ other ∈ escapeChar char, plainChar other = true ∧ other ≠ '<' ∧ other ≠ '"' := by
  unfold escapeChar
  split
  · simp [plainChar]
  split
  · simp [plainChar]
  split
  · simp [plainChar]
  split
  · simp [plainChar]
  · rename_i notLt _ notQuote
    intro other member
    rw [List.mem_singleton.mp member]
    exact ⟨plain, notLt, notQuote⟩

theorem escape_plain {text : Text} (plain : text.all plainChar = true) :
    ∀ char ∈ escape text, plainChar char = true ∧ char ≠ '<' ∧ char ≠ '"' := by
  intro char member
  obtain ⟨source, inside, escaped⟩ := List.mem_flatMap.mp member
  exact escapeChar_plain (List.all_eq_true.mp plain source inside) char escaped

theorem resolveFrom_escapeChar (char : Char) (fuel : Nat) (rest : Text) :
    resolveFrom references (fuel + 1) (escapeChar char ++ rest) =
      char :: resolveFrom references fuel rest := by
  unfold escapeChar
  split
  · rename_i is
    simp [resolveFrom, references.amp, is]
  split
  · rename_i is
    simp [resolveFrom, references.lt, is]
  split
  · rename_i is
    simp [resolveFrom, references.gt, is]
  split
  · rename_i is
    simp [resolveFrom, references.quot, is]
  · rename_i notAmp _ _ _
    rw [List.singleton_append, resolveFrom, if_neg notAmp]

theorem resolveFrom_escape {text : Text} {fuel : Nat} (enough : text.length ≤ fuel) :
    resolveFrom references fuel (escape text) = text := by
  induction text generalizing fuel with
  | nil => cases fuel <;> rfl
  | cons char text ih =>
      obtain ⟨fuel, rfl⟩ : ∃ less, fuel = less + 1 := ⟨fuel - 1, by
        rw [List.length_cons] at enough
        omega⟩
      have split : escape (char :: text) = escapeChar char ++ escape text := List.flatMap_cons
      rw [split, resolveFrom_escapeChar, ih (Nat.le_of_succ_le_succ enough)]

theorem escape_length (text : Text) : text.length ≤ (escape text).length := by
  induction text with
  | nil => exact Nat.le_refl _
  | cons char text ih =>
      have split : escape (char :: text) = escapeChar char ++ escape text := List.flatMap_cons
      have positive : 1 ≤ (escapeChar char).length := by
        unfold escapeChar
        repeat' split
        all_goals simp
      rw [split, List.length_append, List.length_cons]
      omega

theorem resolve_escape (text : Text) : resolve references (escape text) = text :=
  resolveFrom_escape references (escape_length text)

/-- An escaped text is read up to the mark behind it. -/
theorem readUntil_escape {mark : Char} (isMark : mark = '<' ∨ mark = '"') {text : Text}
    (plain : text.all plainChar = true) (rest : Text) :
    readUntil references mark (escape text ++ mark :: rest) = some (text, mark :: rest) := by
  have clean := escape_plain plain
  have unmarked : ∀ char ∈ escape text, (char != mark) = true := by
    intro char member
    obtain ⟨-, notLt, notQuote⟩ := clean char member
    rcases isMark with rfl | rfl
    · exact bne_iff_ne.mpr notLt
    · exact bne_iff_ne.mpr notQuote
  have front : (escape text ++ mark :: rest).takeWhile (· != mark) = escape text := by
    rw [List.takeWhile_append_of_pos unmarked, List.takeWhile_cons_of_neg (by simp),
      List.append_nil]
  have back : (escape text ++ mark :: rest).dropWhile (· != mark) = mark :: rest := by
    rw [List.dropWhile_append_of_pos unmarked, List.dropWhile_cons_of_neg (by simp)]
  have whole : (escape text).all plainChar = true :=
    List.all_eq_true.mpr (fun char member => (clean char member).1)
  rw [readUntil, front, if_pos whole, back, resolve_escape]

theorem readName_append {name : Text} (nonempty : name ≠ []) (clean : name.all nameChar = true)
    {mark : Char} (isMark : nameChar mark = false) (rest : Text) :
    readName (name ++ mark :: rest) = some (name, mark :: rest) := by
  have all := List.all_eq_true.mp clean
  have front : (name ++ mark :: rest).takeWhile nameChar = name := by
    rw [List.takeWhile_append_of_pos all, List.takeWhile_cons_of_neg (by simp [isMark]),
      List.append_nil]
  have back : (name ++ mark :: rest).dropWhile nameChar = mark :: rest := by
    rw [List.dropWhile_append_of_pos all, List.dropWhile_cons_of_neg (by simp [isMark])]
  rw [readName, front, if_neg nonempty, back]

theorem readAttributes_render {attributes : List (Text × Text)}
    (names : ∀ pair ∈ attributes, pair.1 ≠ [] ∧ pair.1.all nameChar = true)
    (values : ∀ pair ∈ attributes, pair.2.all plainChar = true) {fuel : Nat}
    (enough : attributes.length ≤ fuel) (rest : Text) :
    readAttributes references fuel (attributes.flatMap renderAttribute ++ '>' :: rest) =
      some (attributes, rest) := by
  induction attributes generalizing fuel with
  | nil => cases fuel <;> rfl
  | cons pair attributes ih =>
      obtain ⟨name, value⟩ := pair
      obtain ⟨fuel, rfl⟩ : ∃ less, fuel = less + 1 := ⟨fuel - 1, by
        rw [List.length_cons] at enough
        omega⟩
      obtain ⟨nonempty, clean⟩ := names _ List.mem_cons_self
      have later := ih (fun other member => names other (List.mem_cons_of_mem _ member))
        (fun other member => values other (List.mem_cons_of_mem _ member))
        (Nat.le_of_succ_le_succ enough)
      have text : (((name, value) :: attributes).flatMap renderAttribute ++ '>' :: rest) =
          ' ' :: (name ++ '=' :: '"' :: (escape value ++
            '"' :: (attributes.flatMap renderAttribute ++ '>' :: rest))) := by
        simp [renderAttribute]
      have quoted : readUntil references '"' (escape value ++
          '"' :: (attributes.flatMap renderAttribute ++ '>' :: rest)) =
            some (value, '"' :: (attributes.flatMap renderAttribute ++ '>' :: rest)) :=
        readUntil_escape references (.inr rfl) (values _ List.mem_cons_self) _
      rw [text, readAttributes, readName_append nonempty clean (by decide)]
      simp only [quoted, later]
      rfl

theorem ordinary_clean : ∀ name ∈ ordinary, name ≠ [] ∧ name.all nameChar = true := by
  decide

theorem attributes_length (attributes : List (Text × Text)) :
    attributes.length ≤ (attributes.flatMap renderAttribute).length := by
  induction attributes with
  | nil => exact Nat.le_refl _
  | cons pair attributes ih =>
      rw [List.flatMap_cons, List.length_append, List.length_cons, renderAttribute,
        List.length_cons]
      omega

theorem readElement_render {element : Element} (clean : element.Clean) (rest : Text) :
    readElement references (render element ++ rest) = some (element, rest) := by
  obtain ⟨name, attributes, content⟩ := element
  obtain ⟨nonempty, nameClean⟩ := ordinary_clean name clean.name
  have text : render ⟨name, attributes, content⟩ ++ rest =
      '<' :: (name ++ (attributes.flatMap renderAttribute ++
        '>' :: (escape content ++ (endTag name ++ rest)))) := by
    simp [render]
  -- behind the name stands the blank before an attribute, or the end of the tag
  obtain ⟨mark, behind, split, isMark⟩ : ∃ mark behind,
      attributes.flatMap renderAttribute ++ '>' :: (escape content ++ (endTag name ++ rest)) =
        mark :: behind ∧ nameChar mark = false := by
    cases attributes with
    | nil => exact ⟨'>', _, rfl, by decide⟩
    | cons pair attributes => exact ⟨' ', _, rfl, by decide⟩
  have tag : readAttributes references (mark :: behind).length (mark :: behind) =
      some (attributes, escape content ++ (endTag name ++ rest)) := by
    rw [← split]
    apply readAttributes_render references clean.names clean.values
    have bound := attributes_length attributes
    rw [List.length_append]
    exact bound.trans (Nat.le_add_right _ _)
  have inside : readUntil references '<' (escape content ++ (endTag name ++ rest)) =
      some (content, endTag name ++ rest) :=
    readUntil_escape references (.inl rfl) clean.content _
  have ends : (endTag name).isPrefixOf (endTag name ++ rest) = true :=
    List.isPrefixOf_iff_prefix.mpr (List.prefix_append _ _)
  rw [text, split, readElement, readName_append nonempty nameClean isMark]
  simp only [clean.name, if_true, tag, inside, ends, List.drop_left]

theorem readElements_render {elements : List Element}
    (clean : ∀ element ∈ elements, element.Clean) {fuel : Nat} (enough : elements.length ≤ fuel) :
    readElements references fuel (elements.flatMap render) = some elements := by
  induction elements generalizing fuel with
  | nil => cases fuel <;> rfl
  | cons element elements ih =>
      obtain ⟨fuel, rfl⟩ : ∃ less, fuel = less + 1 := ⟨fuel - 1, by
        rw [List.length_cons] at enough
        omega⟩
      have later := ih (fun other member => clean other (List.mem_cons_of_mem _ member))
        (Nat.le_of_succ_le_succ enough)
      have here := readElement_render references (clean element List.mem_cons_self)
        (elements.flatMap render)
      have some_text : render element ++ elements.flatMap render ≠ [] := nofun
      rw [List.flatMap_cons, readElements, here, Option.bind_some, later]
      · rfl
      · exact some_text

theorem elements_length (elements : List Element) :
    elements.length ≤ (elements.flatMap render).length := by
  induction elements with
  | nil => exact Nat.le_refl _
  | cons element elements ih =>
      rw [List.flatMap_cons, List.length_append, List.length_cons, render, List.length_cons]
      omega

theorem readFragment_render {elements : List Element}
    (clean : ∀ element ∈ elements, element.Clean) :
    readFragment references (elements.flatMap render) = some elements :=
  readElements_render references clean (elements_length elements)

end Firmware.Html
