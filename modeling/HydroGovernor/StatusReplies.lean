import HydroGovernor.ScanListing
import HydroGovernor.WifiManager

/-! What status_handler and dashready_handler of web_server.c write, and what the page reads. -/

namespace HydroGovernor

open Firmware
open Firmware.Utf8 (Text)

/-! s_ip -/

def ipTextSize : Nat := 20
def statusTextSize : Nat := 96
def dashTextSize : Nat := 128

/-- An `esp_ip4_addr_t`. -/
structure IpAddr where
  first : UInt8
  second : UInt8
  third : UInt8
  fourth : UInt8
  deriving DecidableEq, Repr

def decimalByte (value : UInt8) : Text := Nat.toDigits 10 value.toNat

/-- `IPSTR`. -/
def IpAddr.chars (address : IpAddr) : Text :=
  decimalByte address.first ++ '.' :: (decimalByte address.second ++ '.' ::
    (decimalByte address.third ++ '.' :: decimalByte address.fourth))

def asciiText (text : Text) : Bytes := text.map (fun char => UInt8.ofNat char.toNat)

/-- The string that `snprintf(buf, size, …)` leaves. -/
def printed (size : Nat) (text : Bytes) : Bytes := text.take (size - 1)

def ipText : Option IpAddr → Bytes
  | none => []
  | some address => printed ipTextSize (asciiText address.chars)

/-! The handlers -/

/-- The text of status_handler for the state it has read, with the s_ip it reads after that. -/
def statusReply (state : MgrState) (ip : Bytes) : Bytes :=
  printed statusTextSize <|
    match state with
    | .connected => ascii "\x7b\"status\":\"connected\",\"ip\":\"" ++ ip ++ ascii "\"\x7d"
    | .failed => ascii "\x7b\"status\":\"failed\"\x7d"
    | .connecting => ascii "\x7b\"status\":\"connecting\"\x7d"
    | .idle | .apOnly => ascii "\x7b\"status\":\"idle\"\x7d"

/-- The text of dashready_handler. -/
def dashReply (connected : Bool) (ip : Bytes) : Bytes :=
  printed dashTextSize
    (ascii "\x7b\"ready\":" ++ (if connected then ascii "true" else ascii "false") ++
      ascii ",\"ip\":\"" ++ ip ++ ascii "\",\"local\":\"http://hydroponics.local\"\x7d")

/-! What the texts read as -/

def addressChars : Option IpAddr → Text
  | none => []
  | some address => address.chars

def statusWord : MgrState → String
  | .connected => "connected"
  | .failed => "failed"
  | .connecting => "connecting"
  | .idle | .apOnly => "idle"

def statusValue (state : MgrState) (address : Option IpAddr) : Json :=
  .object (("status".toList, .string (statusWord state).toList) ::
    if state = .connected then [("ip".toList, .string (addressChars address))] else [])

def localName : String := "http://hydroponics.local"

def dashValue (connected : Bool) (address : Option IpAddr) : Json :=
  .object [("ready".toList, .bool connected), ("ip".toList, .string (addressChars address)),
    ("local".toList, .string localName.toList)]

/-! Digits and points -/

/-- A character that a JSON string shows as it is, in one byte. -/
def PlainChar (char : Char) : Prop :=
  0x20 ≤ char.toNat ∧ char.toNat < 0x80 ∧ char ≠ '"' ∧ char ≠ '\\'

theorem plainChar_digit {char : Char} (digit : char.isDigit = true) : PlainChar char := by
  simp only [Char.isDigit, Bool.and_eq_true, decide_eq_true_eq] at digit
  have low := UInt32.le_iff_toNat_le.mp digit.1
  have high := UInt32.le_iff_toNat_le.mp digit.2
  have least : '0'.val.toNat = 0x30 := rfl
  have most : '9'.val.toNat = 0x39 := rfl
  have value : char.toNat = char.val.toNat := rfl
  refine ⟨by omega, by omega, ?_, ?_⟩
  · rintro rfl
    exact absurd low (by decide)
  · rintro rfl
    exact absurd high (by decide)

theorem IpAddr.chars_plain (address : IpAddr) : ∀ char ∈ address.chars, PlainChar char := by
  have digits (value : UInt8) : ∀ char ∈ decimalByte value, PlainChar char :=
    fun char member => plainChar_digit (Json.toDigits_isDigit value.toNat char member)
  have point : PlainChar '.' := by simp [PlainChar]
  intro char member
  simp only [IpAddr.chars, List.mem_append, List.mem_cons] at member
  rcases member with one | rfl | two | rfl | three | rfl | four
  · exact digits _ char one
  · exact point
  · exact digits _ char two
  · exact point
  · exact digits _ char three
  · exact point
  · exact digits _ char four

theorem addressChars_plain : (address : Option IpAddr) →
    ∀ char ∈ addressChars address, PlainChar char
  | none => fun _ member => absurd member List.not_mem_nil
  | some address => address.chars_plain

theorem decimalByte_length : ∀ value : UInt8,
    1 ≤ (decimalByte value).length ∧ (decimalByte value).length ≤ 3 := by
  decide +kernel

theorem IpAddr.chars_length (address : IpAddr) :
    7 ≤ address.chars.length ∧ address.chars.length ≤ 15 := by
  have one := decimalByte_length address.first
  have two := decimalByte_length address.second
  have three := decimalByte_length address.third
  have four := decimalByte_length address.fourth
  simp only [IpAddr.chars, List.length_append, List.length_cons]
  omega

theorem addressChars_length : (address : Option IpAddr) → (addressChars address).length ≤ 15
  | none => Nat.zero_le _
  | some address => address.chars_length.2

theorem IpAddr.chars_ne_nil (address : IpAddr) : address.chars ≠ [] := by
  have long := address.chars_length.1
  intro empty
  rw [empty] at long
  exact absurd long (by decide)

theorem printed_fits {size : Nat} {text : Bytes} (fits : text.length < size) :
    printed size text = text :=
  List.take_of_length_le (by omega)

theorem ipText_eq (address : Option IpAddr) :
    ipText address = asciiText (addressChars address) := by
  cases address with
  | none => rfl
  | some address =>
      have long := address.chars_length.2
      apply printed_fits
      rw [asciiText, List.length_map, ipTextSize]
      omega

theorem renderText_plain {text : Text} (plain : ∀ char ∈ text, PlainChar char) :
    Json.renderText text = '"' :: (text ++ ['"']) := by
  have single : text.flatMap Json.renderChar = text.flatMap (fun char => [char]) := by
    apply List.flatMap_congr
    intro char member
    obtain ⟨printable, -, notQuote, notBackslash⟩ := plain char member
    exact renderChar_plain (fun same => notQuote (Char.toNat_inj.mp same))
      (fun same => notBackslash (Char.toNat_inj.mp same)) printable
  rw [Json.renderText, single, List.flatMap_singleton']

/-! Reading -/

theorem read_asciiText {text : Text} (isAscii : ∀ char ∈ text, char.toNat < 0x80) :
    utf8Reading.text (asciiText text) = text := by
  have whole := utf8Reading.literal isAscii []
  rwa [List.append_nil, utf8Reading.empty, List.append_nil] at whole

theorem read_printed {size : Nat} {bytes : Bytes} {text : Text} {value : Json}
    (fits : text.length < size) (written : bytes = asciiText text)
    (isAscii : ∀ char ∈ text, char.toNat < 0x80) (renders : Json.render value = text) :
    Json.read (utf8Reading.text (printed size bytes)) = some value := by
  rw [written, printed_fits (by rwa [asciiText, List.length_map]), read_asciiText isAscii,
    ← renders, Json.read_render]

theorem around_address {front back : Text} (address : Option IpAddr)
    (frontAscii : ∀ char ∈ front, char.toNat < 0x80)
    (backAscii : ∀ char ∈ back, char.toNat < 0x80) :
    ∀ char ∈ front ++ (addressChars address ++ back), char.toNat < 0x80 := by
  intro char member
  rcases List.mem_append.mp member with inFront | behind
  · exact frontAscii char inFront
  · rcases List.mem_append.mp behind with inside | inBack
    · exact (addressChars_plain address char inside).2.1
    · exact backAscii char inBack

theorem read_connectedReply (address : Option IpAddr) :
    Json.read (utf8Reading.text (statusReply .connected (ipText address))) =
      some (statusValue .connected address) := by
  have long := addressChars_length address
  have status : Json.renderText "status".toList = '"' :: ("status".toList ++ ['"']) :=
    renderText_plain (by simp [PlainChar])
  have connected : Json.renderText "connected".toList = '"' :: ("connected".toList ++ ['"']) :=
    renderText_plain (by simp [PlainChar])
  have ip : Json.renderText "ip".toList = '"' :: ("ip".toList ++ ['"']) :=
    renderText_plain (by simp [PlainChar])
  rw [statusReply, ipText_eq]
  apply @read_printed _ _ ("\x7b\"status\":\"connected\",\"ip\":\"".toList ++
    (addressChars address ++ "\"\x7d".toList))
  case fits =>
    simp [statusTextSize]
    omega
  case written => simp [ascii, asciiText]
  case isAscii => exact around_address address (by simp) (by simp)
  case renders =>
    rw [statusValue, if_pos rfl, statusWord, Json.render, Json.renderMembers, Json.renderMembers,
      Json.renderMembers, Json.render, Json.render, status, connected, ip,
      renderText_plain (addressChars_plain address)]
    simp [Json.separator]

theorem statusReply_length (state : MgrState) (address : Option IpAddr) :
    (statusReply state (ipText address)).length + 1 < statusTextSize := by
  have long := addressChars_length address
  rw [ipText_eq, statusReply.eq_def, printed, List.length_take]
  cases state with
  | connected =>
      simp [statusTextSize, ascii, asciiText]
      omega
  | idle | apOnly | connecting | failed => simp [statusTextSize, ascii]

theorem dashReply_length (connected : Bool) (address : Option IpAddr) :
    (dashReply connected (ipText address)).length + 1 < dashTextSize := by
  have long := addressChars_length address
  rw [ipText_eq, dashReply, printed, List.length_take]
  cases connected <;>
  · simp [dashTextSize, ascii, asciiText]
    omega

theorem read_statusReply (state : MgrState) (address : Option IpAddr) :
    Json.read (utf8Reading.text (statusReply state (ipText address))) =
      some (statusValue state address) := by
  have status : Json.renderText "status".toList = '"' :: ("status".toList ++ ['"']) :=
    renderText_plain (by simp [PlainChar])
  have word (text : Text) (plain : ∀ char ∈ text, PlainChar char) :
      Json.render (.object [("status".toList, .string text)]) =
        "\x7b\"status\":\"".toList ++ (text ++ "\"\x7d".toList) := by
    rw [Json.render, Json.renderMembers, Json.renderMembers, Json.render, status,
      renderText_plain plain]
    simp [Json.separator]
  cases state with
  | connected => exact read_connectedReply address
  | idle | apOnly | connecting | failed =>
      refine read_printed ?_ rfl ?_ (word _ ?_)
      · simp [statusTextSize]
      · simp
      · simp [statusWord, PlainChar]

/-- Every /dashready reply likewise. -/
theorem read_dashReply (connected : Bool) (address : Option IpAddr) :
    Json.read (utf8Reading.text (dashReply connected (ipText address))) =
      some (dashValue connected address) := by
  have long := addressChars_length address
  have ready : Json.renderText "ready".toList = '"' :: ("ready".toList ++ ['"']) :=
    renderText_plain (by simp [PlainChar])
  have ip : Json.renderText "ip".toList = '"' :: ("ip".toList ++ ['"']) :=
    renderText_plain (by simp [PlainChar])
  have label : Json.renderText "local".toList = '"' :: ("local".toList ++ ['"']) :=
    renderText_plain (by simp [PlainChar])
  have name : Json.renderText localName.toList = '"' :: (localName.toList ++ ['"']) :=
    renderText_plain (by simp [localName, PlainChar])
  rw [dashReply, ipText_eq]
  apply @read_printed _ _ (("\x7b\"ready\":".toList ++
    ((if connected then "true".toList else "false".toList) ++ ",\"ip\":\"".toList)) ++
      (addressChars address ++ "\",\"local\":\"http://hydroponics.local\"\x7d".toList))
  case fits =>
    cases connected <;>
    · simp [dashTextSize]
      omega
  case written => cases connected <;> simp [ascii, asciiText]
  case isAscii => exact around_address address (by cases connected <;> simp) (by simp)
  case renders =>
    rw [dashValue, Json.render, Json.renderMembers, Json.renderMembers, Json.renderMembers,
      Json.renderMembers, Json.render, Json.render, Json.render, ready, ip, label, name,
      renderText_plain (addressChars_plain address), localName]
    cases connected <;> simp [Json.separator]

end HydroGovernor
