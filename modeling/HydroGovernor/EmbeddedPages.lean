import HydroGovernor.Library.CHeader
import HydroGovernor.WifiManager

/-! The pages from their source files through the headers of embed_html.py to root_handler. -/

namespace HydroGovernor

open Firmware
open Firmware.Utf8 (Text)
open Firmware.CHeader

/-! scripts/embed_html.py -/

/-- What open(.., "r") makes of the ends of lines. -/
def universalNewlines : Text → Text
  | [] => []
  | ['\r'] => ['\n']
  | '\r' :: '\n' :: rest => '\n' :: universalNewlines rest
  | '\r' :: char :: rest => '\n' :: universalNewlines (char :: rest)
  | char :: rest => char :: universalNewlines rest

/-- `data`: the page in UTF-8 and a null terminator. -/
def pageData (source : Text) : Bytes := Utf8.encode (universalNewlines source) ++ [0]

/-- `f_name.replace(".", "_")` -/
def arrayName (fName : Text) : Text := fName.map (fun char => if char = '.' then '_' else char)

def headerContent (fName source : Text) : Text :=
  let data := pageData source
  let name := arrayName fName
  "// Auto-generated from ".toList ++ fName ++ "\n#pragma once\n#include <stdint.h>\n\n".toList ++
    "const uint8_t ".toList ++ name ++ "_start[] = \x7b ".toList ++ writeItems data ++
    " \x7d;\nconst uint8_t ".toList ++ name ++
    "_end[] = \x7b\x7d; // dummy for pointer math\nconst size_t ".toList ++ name ++
    "_len = ".toList ++ Nat.toDigits 10 (data.length - 1) ++ ";\n".toList

/-- What open(.., "w") makes of the ends of lines: os.linesep has two characters on Windows. -/
def osNewlines (windows : Bool) (text : Text) : Text :=
  if windows then splitReturns text else text

/-- The header on disk after a run of the script. It is only rewritten if it has changed, by a
comparison with the old one as open(.., "r") reads it. -/
def generated (windows : Bool) (onDisk : Option Text) (fName source : Text) : Text :=
  let content := headerContent fName source
  match onDisk with
  | none => osNewlines windows content
  | some old => if universalNewlines old ≠ content then osNewlines windows content else old

/-! root_handler -/

def definedBytes (definitions : List Definition) (name : Text) : Option Bytes :=
  definitions.findSome? (fun definition =>
    match definition with
    | .bytes found values => if found = name then some values else none
    | .size _ _ => none)

def definedSize (definitions : List Definition) (name : Text) : Option Nat :=
  definitions.findSome? (fun definition =>
    match definition with
    | .size found value => if found = name then some value else none
    | .bytes _ _ => none)

/-- `httpd_resp_send(req, name_start, name_len)` -/
def sendPage (definitions : List Definition) (name : String) : Option Bytes :=
  (definedBytes definitions (name ++ "_start").toList).bind (fun start =>
    (definedSize definitions (name ++ "_len").toList).map (fun len => start.take len))

/-- The body of the answer, with the definitions of both included headers. -/
def rootPage (state : MgrState) (definitions : List Definition) : Option Bytes :=
  if state = .connected then sendPage definitions "page_dash_html"
  else sendPage definitions "page_setup_html"

/-! What the compiler reads -/

def headerLines (fName source : Text) : List Text :=
  ["// Auto-generated from ".toList ++ fName, "#pragma once".toList, "#include <stdint.h>".toList,
    [],
    "const uint8_t ".toList ++ (arrayName fName ++ "_start".toList) ++ "[] = \x7b ".toList ++
      writeItems (pageData source) ++ " \x7d;".toList ++ [],
    "const uint8_t ".toList ++ (arrayName fName ++ "_end".toList) ++ "[] = \x7b\x7d;".toList ++
      " // dummy for pointer math".toList,
    "const size_t ".toList ++ (arrayName fName ++ "_len".toList) ++ " = ".toList ++
      Nat.toDigits 10 ((pageData source).length - 1) ++ ";".toList ++ [],
    []]

theorem headerContent_lines (fName source : Text) :
    headerContent fName source = ['\n'].intercalate (headerLines fName source) := by
  have directives : "\n#pragma once\n#include <stdint.h>\n\n".toList = ['\n'] ++
      "#pragma once".toList ++ ['\n'] ++ "#include <stdint.h>".toList ++ ['\n'] ++ ['\n'] := by
    decide
  have opening : "_start[] = \x7b ".toList = "_start".toList ++ "[] = \x7b ".toList := by decide
  have closing : " \x7d;\nconst uint8_t ".toList =
      " \x7d;".toList ++ ['\n'] ++ "const uint8_t ".toList := by
    decide
  have ending : "_end[] = \x7b\x7d; // dummy for pointer math\nconst size_t ".toList =
      "_end".toList ++ "[] = \x7b\x7d;".toList ++ " // dummy for pointer math".toList ++ ['\n'] ++
        "const size_t ".toList := by
    decide
  have length : "_len = ".toList = "_len".toList ++ " = ".toList := by decide
  have last : ";\n".toList = ";".toList ++ ['\n'] := by decide
  unfold headerContent headerLines
  rw [directives, opening, closing, ending, length, last]
  simp only [List.intercalate_cons_cons, List.intercalate_singleton, List.append_assoc,
    List.append_nil, List.nil_append]

/-- A file name that leaves the definitions of its header in one line each. -/
structure PlainFile (fName : Text) : Prop where
  line : '\n' ∉ fName
  nameLine : '\n' ∉ arrayName fName
  oneLine : '\r' ∉ fName
  nameOneLine : '\r' ∉ arrayName fName
  bracket : '[' ∉ arrayName fName
  space : ' ' ∉ arrayName fName

theorem headerLines_clean {fName : Text} (plain : PlainFile fName) (source : Text) :
    ∀ line ∈ headerLines fName source, '\n' ∉ line := by
  have items : '\n' ∉ writeItems (pageData source) :=
    writeItems_clean _ (by decide) (by decide) (by decide)
  have digits : '\n' ∉ Nat.toDigits 10 ((pageData source).length - 1) :=
    fun member => absurd (Json.toDigits_isDigit _ _ member) (by decide)
  simp [headerLines, plain.line, plain.nameLine, items, digits]

theorem headerContent_returns {fName : Text} (plain : PlainFile fName) (source : Text) :
    '\r' ∉ headerContent fName source := by
  have items : '\r' ∉ writeItems (pageData source) :=
    writeItems_clean _ (by decide) (by decide) (by decide)
  have digits : '\r' ∉ Nat.toDigits 10 ((pageData source).length - 1) :=
    fun member => absurd (Json.toDigits_isDigit _ _ member) (by decide)
  rw [headerContent_lines]
  apply not_mem_intercalate (by decide)
  simp [headerLines, plain.oneLine, plain.nameOneLine, items, digits]

theorem readHeader_content {fName : Text} (plain : PlainFile fName) (source : Text) :
    readHeader (headerContent fName source) =
      [.bytes (arrayName fName ++ "_start".toList) (pageData source),
        .bytes (arrayName fName ++ "_end".toList) [],
        .size (arrayName fName ++ "_len".toList) ((pageData source).length - 1)] := by
  have bracket (label : String) (clean : '[' ∉ label.toList) :
      '[' ∉ arrayName fName ++ label.toList := by
    rw [List.mem_append, not_or]
    exact ⟨plain.bracket, clean⟩
  have space : ' ' ∉ arrayName fName ++ "_len".toList := by
    rw [List.mem_append, not_or]
    exact ⟨plain.space, by decide⟩
  obtain ⟨byte, rest, data⟩ : ∃ byte rest, pageData source = byte :: rest :=
    List.exists_cons_of_ne_nil (by simp [pageData])
  have start := readArray_items (bracket "_start" (by decide)) byte rest []
  have stop := readArray_empty (bracket "_end" (by decide)) " // dummy for pointer math".toList
  have size := readSize_digits space ((pageData source).length - 1) []
  -- the lines that are no arrays
  have banner : (readArray ("// Auto-generated from ".toList ++ fName)).or
      (readSize ("// Auto-generated from ".toList ++ fName)) = none := rfl
  have noArray : readArray ("const size_t ".toList ++ (arrayName fName ++ "_len".toList) ++
      " = ".toList ++ Nat.toDigits 10 ((pageData source).length - 1) ++ ";".toList ++ []) = none :=
    rfl
  have once : (readArray "#pragma once".toList).or (readSize "#pragma once".toList) = none := rfl
  have includes : (readArray "#include <stdint.h>".toList).or
      (readSize "#include <stdint.h>".toList) = none := rfl
  have blank : (readArray []).or (readSize []) = none := rfl
  rw [readHeader, joinReturns_of_none (headerContent_returns plain source), headerContent_lines,
    List.splitOn_intercalate _ (headerLines_clean plain source) (by unfold headerLines; simp)]
  unfold headerLines
  rw [data] at size noArray ⊢
  simp only [List.filterMap_cons, List.filterMap_nil, banner, once, includes, blank, start, stop,
    size, noArray, Option.some_or, Option.none_or]

def setupFile : Text := "page_setup.html".toList
def dashFile : Text := "page_dash.html".toList

theorem plain_setup : PlainFile setupFile :=
  ⟨by decide, by decide, by decide, by decide, by decide, by decide⟩

theorem plain_dash : PlainFile dashFile :=
  ⟨by decide, by decide, by decide, by decide, by decide, by decide⟩

theorem universalNewlines_paired {text : Text} (paired : PairedReturns text) :
    universalNewlines text = joinReturns text := by
  fun_induction universalNewlines text with
  | case1 => rfl
  | case2 => cases paired [] [] rfl
  | case3 rest ih => rw [joinReturns, ih paired.tail.tail]
  | case4 char rest notNewline ih =>
      have newline : some char = some '\n' := paired [] (char :: rest) rfl
      exact absurd (Option.some.inj newline) notNewline
  | case5 char rest alone notEnd notReturn ih =>
      have other : char ≠ '\r' := by
        rintro rfl
        cases rest with
        | nil => exact alone rfl rfl
        | cons second more => exact notReturn second more rfl rfl
      rw [joinReturns_cons other, ih paired.tail]

theorem readHeader_generated {fName : Text} (plain : PlainFile fName) (source : Text)
    (windows : Bool) {onDisk : Option Text} (paired : ∀ old ∈ onDisk, PairedReturns old) :
    readHeader (generated windows onDisk fName source) =
      readHeader (headerContent fName source) := by
  have returns := headerContent_returns plain source
  have written : joinReturns (osNewlines windows (headerContent fName source)) =
      headerContent fName source := by
    cases windows with
    | false => exact joinReturns_of_none returns
    | true => exact joinReturns_split returns
  rw [readHeader, readHeader, joinReturns_of_none returns, generated.eq_def]
  cases onDisk with
  | none => rw [written]
  | some old =>
      simp only
      split
      · rw [written]
      · rename_i same
        rw [← universalNewlines_paired (paired old rfl), not_not.mp same]

theorem pageData_sent (source : Text) :
    (pageData source).take ((pageData source).length - 1) =
      Utf8.encode (universalNewlines source) := by
  rw [pageData, List.length_append, List.length_singleton, Nat.add_sub_cancel, List.take_left]

theorem rootPage_generated (state : MgrState) (windows : Bool) {oldSetup oldDash : Option Text}
    (setupPaired : ∀ old ∈ oldSetup, PairedReturns old)
    (dashPaired : ∀ old ∈ oldDash, PairedReturns old) (setup dash : Text) :
    rootPage state (readHeader (generated windows oldSetup setupFile setup) ++
        readHeader (generated windows oldDash dashFile dash)) =
      some (Utf8.encode (universalNewlines (if state = .connected then dash else setup))) := by
  rw [readHeader_generated plain_setup setup windows setupPaired,
    readHeader_generated plain_dash dash windows dashPaired, readHeader_content plain_setup,
    readHeader_content plain_dash, ← pageData_sent]
  cases state <;> rfl

/-- Whatever headers with ends of lines of one or two characters were on disk and whatever the two
source files say, GET / answers with the text of the one that the state asks for, character by
character. -/
theorem page_served (state : MgrState) (windows : Bool) (oldSetup oldDash : Option Text)
    (setupPaired : ∀ old ∈ oldSetup, PairedReturns old)
    (dashPaired : ∀ old ∈ oldDash, PairedReturns old) (setup dash : Text) :
    ∃ body, rootPage state (readHeader (generated windows oldSetup setupFile setup) ++
        readHeader (generated windows oldDash dashFile dash)) = some body ∧
      Utf8.decode body = universalNewlines (if state = .connected then dash else setup) :=
  ⟨_, rootPage_generated state windows setupPaired dashPaired setup dash, Utf8.decode_encode _⟩

/-- A checkout on Windows has left the header of the dashboard with its own ends of lines. -/
theorem kept_page_served :
    ∃ body, rootPage .connected
        (readHeader (generated true none setupFile "<p>Setup</p>\n".toList) ++
          readHeader (generated true
            (some (splitReturns (headerContent dashFile "<p>Live</p>\n".toList))) dashFile
            "<p>Live</p>\r\n".toList)) = some body ∧
      Utf8.decode body = universalNewlines "<p>Live</p>\r\n".toList :=
  page_served .connected true none _ nofun
    (fun _ is => Option.mem_some.mp is ▸ paired_split (headerContent_returns plain_dash _)) _ _

end HydroGovernor
