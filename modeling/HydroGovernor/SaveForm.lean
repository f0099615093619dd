import HydroGovernor.Library.PercentEncoding
import HydroGovernor.WifiManager

/-! The provisioning form: what onSubmit of page_setup.html posts, and how save_handler of
web_server.c takes it apart. -/

namespace HydroGovernor

open Firmware
open Firmware.Utf8 (Text)

/-! onSubmit -/

/-- `length` of a JavaScript string counts UTF-16 units. -/
def jsLength (text : Text) : Nat :=
  (text.map (fun char => if char.toNat < 0x10000 then 1 else 2)).sum

def submitBody (selSsid pass : Text) (selOpen : Bool) : Bytes :=
  [0x73, 0x3D] ++ Uri.encodeURIComponent selSsid ++ [0x26, 0x70, 0x3D] ++
    Uri.encodeURIComponent pass ++ [0x26, 0x6F, 0x3D] ++ (if selOpen then [0x31] else [0x30])

/-- What the button does: nothing without a selection, one of two complaints about the
password, or the request. -/
inductive Submit where
  | nothing
  | passwordRequired
  | minEightCharacters
  | post (body : Bytes)
  deriving DecidableEq, Repr

def onSubmit (selSsid pass : Text) (selOpen : Bool) : Submit :=
  if selSsid = [] then .nothing
  else if selOpen = false ∧ jsLength pass = 0 then .passwordRequired
  else if selOpen = false ∧ jsLength pass < 8 then .minEightCharacters
  else .post (submitBody selSsid pass selOpen)

/-! url_decode and extract_field -/

/-- `isspace` of the C locale. -/
def isSpaceByte (byte : UInt8) : Bool := byte == 0x20 || (0x09 ≤ byte && byte ≤ 0x0D)

def hexDigitValue (byte : UInt8) : Option Nat :=
  if 0x30 ≤ byte ∧ byte ≤ 0x39 then some (byte.toNat - 0x30)
  else if 0x41 ≤ byte ∧ byte ≤ 0x46 then some (byte.toNat - 0x37)
  else if 0x61 ≤ byte ∧ byte ≤ 0x66 then some (byte.toNat - 0x57)
  else none

/-- `(char)strtol(hex, &end, 16)` of two characters, if `end` is behind both: two digits, or
one after a blank or a sign. -/
def strtolPair (first second : UInt8) : Option UInt8 :=
  match hexDigitValue second with
  | none => none
  | some low =>
      match hexDigitValue first with
      | some high => some (UInt8.ofNat (high * 16 + low))
      | none =>
          if isSpaceByte first ∨ first = 0x2B then some (UInt8.ofNat low)
          else if first = 0x2D then some (-(UInt8.ofNat low))
          else none

def hexPair : Bytes → Option UInt8
  | first :: second :: _ => strtolPair first second
  | _ => none

/-- The loop of url_decode with `dst_size = size`. `skip` is how far `si` is ahead of the
current byte, `out` what dst holds so far. -/
def urlDecodeFrom (size : Nat) : Bytes → Nat → Bytes → Bytes
  | [], _, out => out
  | _ :: rest, skip + 1, out => urlDecodeFrom size rest skip out
  | ch :: rest, 0, out =>
      if out.length < size - 1 then
        if ch = 0x25 then
          match hexPair rest with
          | some value => urlDecodeFrom size rest 2 (out ++ [value])
          | none => urlDecodeFrom size rest 0 (out ++ [ch])
        else if ch = 0x2B then urlDecodeFrom size rest 0 (out ++ [0x20])
        else urlDecodeFrom size rest 0 (out ++ [ch])
      else out

/-- The bytes that dst holds before its terminator; url_decode returns their number. -/
def urlDecode (size : Nat) (src : Bytes) : Bytes := urlDecodeFrom size src 0 []

def strstr (needle : Bytes) : Bytes → Option Bytes
  | [] => if needle = [] then some [] else none
  | byte :: rest =>
      if needle.isPrefixOf (byte :: rest) then some (byte :: rest) else strstr needle rest

/-- `snprintf(key, 32, "%s=", field)` -/
def fieldKey (field : Bytes) : Bytes := (field ++ [0x3D]).take 31

def findField (body key : Bytes) : Option Bytes :=
  match strstr key body with
  | some p => some p
  | none => if key.isPrefixOf body then some body else none

/-- `none` when the field is not there; dst is not touched then. -/
def extractField (body : CString) (field : Bytes) (size : Nat) : Option Bytes :=
  (findField body.bytes (fieldKey field)).map (fun p =>
    urlDecode size ((p.drop (fieldKey field).length).takeWhile (· != 0x26)))

/-! save_handler -/

def saveBodySize : Nat := 384
def saveFieldSize : Nat := 64
def openFieldSize : Nat := 4

/-- The string in a zeroed array after extract_field. -/
def fieldText : Option Bytes → CString
  | some decoded => CString.ofBuffer decoded
  | none => CString.empty

/-- How a request ends that save_handler answers itself, or the call of wifi_manager_connect. -/
inductive SaveReply where
  | busy
  | emptyBody
  | ssidRequired
  | connect (ssid pass : CString) (isOpen : Bool)
  deriving DecidableEq, Repr

/-- `received` is what httpd_req_recv copied, nothing when it failed. -/
def saveHandler (state : MgrState) (received : Bytes) : SaveReply :=
  if state = .connecting ∨ state = .connected then .busy
  else if received = [] then .emptyBody
  else
    let body := CString.ofBuffer received
    -- the fields "s", "p" and "o"
    let ssid := fieldText (extractField body [0x73] saveFieldSize)
    let pass := fieldText (extractField body [0x70] saveFieldSize)
    let openStr := fieldText (extractField body [0x6F] openFieldSize)
    if ssid.bytes = [] then .ssidRequired
    else .connect ssid pass (openStr.bytes.head? == some 0x31)

/-- A receive that gets as much as save_handler asks for. -/
def receiveWhole (content : Bytes) : Bytes := content.take (min (saveBodySize - 1) content.length)

/-- What the page is told; `ret` is the result of wifi_manager_connect. -/
def saveResponse (ret : EspErr) : SaveReply → String
  | .busy => "\x7b\"status\":\"busy\"\x7d"
  | .emptyBody => "Empty body"
  | .ssidRequired => "\x7b\"status\":\"error\",\"msg\":\"SSID required\"\x7d"
  | .connect _ _ _ =>
      if ret = .ok then "\x7b\"status\":\"connecting\"\x7d" else "\x7b\"status\":\"error\"\x7d"

/-! Percent-decoding -/

theorem hexDigitValue_hexDigit : ∀ value < 16, hexDigitValue (Uri.hexDigit value) = some value := by
  decide

theorem strtolPair_hexDigits (byte : UInt8) :
    strtolPair (Uri.hexDigit (byte.toNat / 16)) (Uri.hexDigit (byte.toNat % 16)) = some byte := by
  have bound := byte.toNat_lt
  have joined : byte.toNat / 16 * 16 + byte.toNat % 16 = byte.toNat := by omega
  rw [strtolPair, hexDigitValue_hexDigit _ (by omega), hexDigitValue_hexDigit _ (by omega)]
  simp only [joined, UInt8.ofNat_toNat]

theorem urlDecodeFrom_encodeByte {size : Nat} {out : Bytes} (room : out.length < size - 1)
    (byte : UInt8) (rest : Bytes) :
    urlDecodeFrom size (Uri.encodeByte byte ++ rest) 0 out =
      urlDecodeFrom size rest 0 (out ++ [byte]) := by
  by_cases kept : Uri.unescaped byte = true
  · have notPercent : byte ≠ 0x25 := by
      rintro rfl
      exact absurd kept (by decide)
    have notPlus : byte ≠ 0x2B := by
      rintro rfl
      exact absurd kept (by decide)
    rw [Uri.encodeByte, if_pos kept, List.singleton_append, urlDecodeFrom, if_pos room,
      if_neg notPercent, if_neg notPlus]
  · rw [Uri.encodeByte, if_neg kept, Uri.escapeByte]
    simp only [List.cons_append, List.nil_append]
    rw [urlDecodeFrom, if_pos room, if_pos (show Uri.percentSign = 0x25 from rfl), hexPair,
      strtolPair_hexDigits]
    simp only [urlDecodeFrom]

theorem urlDecodeFrom_encoded {size : Nat} (bytes out : Bytes)
    (fits : out.length + bytes.length ≤ size - 1) :
    urlDecodeFrom size (bytes.flatMap Uri.encodeByte) 0 out = out ++ bytes := by
  induction bytes generalizing out with
  | nil => rw [List.flatMap_nil, urlDecodeFrom, List.append_nil]
  | cons byte bytes ih =>
      rw [List.length_cons] at fits
      rw [List.flatMap_cons, urlDecodeFrom_encodeByte (by omega), ih]
      · rw [List.append_assoc, List.singleton_append]
      · rw [List.length_append, List.length_singleton]
        omega

theorem fieldText_encoded {size : Nat} {text : CString} (fits : text.length ≤ size - 1) :
    fieldText (some (urlDecode size (text.bytes.flatMap Uri.encodeByte))) = text := by
  have room : ([] : Bytes).length + text.bytes.length ≤ size - 1 := by
    rw [List.length_nil, Nat.zero_add]
    exact fits
  rw [urlDecode, urlDecodeFrom_encoded text.bytes [] room, List.nil_append]
  exact CString.ofBuffer_bytes text

/-! Taking the form apart -/

def Component (value : Bytes) : Prop := ∀ code ∈ value, code ≠ 0x3D ∧ code ≠ 0x26 ∧ code ≠ 0

theorem component_encoded (bytes : Bytes) : Component (bytes.flatMap Uri.encodeByte) := by
  intro code member
  exact ⟨Uri.encoded_ne member (by decide) (by decide),
    Uri.encoded_ne member (by decide) (by decide), Uri.encoded_ne member (by decide) (by decide)⟩

theorem strstr_skip (name : UInt8) (front after : Bytes) (noEquals : ∀ code ∈ front, code ≠ 0x3D)
    (notNext : after.head? ≠ some 0x3D) :
    strstr [name, 0x3D] (front ++ after) = strstr [name, 0x3D] after := by
  induction front with
  | nil => rfl
  | cons byte front ih =>
      have later := ih (fun code member => noEquals code (List.mem_cons_of_mem _ member))
      have notHere : [name, 0x3D].isPrefixOf (byte :: (front ++ after)) = false := by
        cases front with
        | nil =>
            cases after with
            | nil => simp [List.isPrefixOf]
            | cons head after =>
                have different : head ≠ 0x3D := by simpa using notNext
                simp [List.isPrefixOf, different.symm]
        | cons second front =>
            have different : second ≠ 0x3D := noEquals second (by simp)
            simp [List.isPrefixOf, different.symm]
      rw [List.cons_append, strstr, notHere, if_neg Bool.false_ne_true, later]

theorem strstr_found (name : UInt8) (rest : Bytes) :
    strstr [name, 0x3D] (name :: 0x3D :: rest) = some (name :: 0x3D :: rest) := by
  simp [strstr, List.isPrefixOf]

theorem strstr_other {name other : UInt8} (different : name ≠ other) (notEquals : name ≠ 0x3D)
    (rest : Bytes) :
    strstr [name, 0x3D] (other :: 0x3D :: rest) = strstr [name, 0x3D] rest := by
  simp [strstr, List.isPrefixOf, different, notEquals]

theorem takeWhile_component {value : Bytes} (component : Component value) (rest : Bytes) :
    (value ++ 0x26 :: rest).takeWhile (· != 0x26) = value := by
  have stays : ∀ code ∈ value, (code != 0x26) = true := by
    intro code member
    simpa using (component code member).2.1
  rw [List.takeWhile_append_of_pos stays]
  simp

theorem extractField_at {body : CString} {name : UInt8} {value tail : Bytes} (size : Nat)
    (found : strstr [name, 0x3D] body.bytes = some (name :: 0x3D :: (value ++ tail)))
    (cut : (value ++ tail).takeWhile (· != 0x26) = value) :
    extractField body [name] size = some (urlDecode size value) := by
  have key : fieldKey [name] = [name, 0x3D] := rfl
  rw [extractField, key, findField, found]
  simp only [Option.map_some, List.length_cons, List.length_nil, List.drop_succ_cons,
    List.drop_zero, cut]

def formBytes (ssid pass flag : Bytes) : Bytes :=
  0x73 :: 0x3D :: (ssid ++ 0x26 :: 0x70 :: 0x3D :: (pass ++ 0x26 :: 0x6F :: 0x3D :: flag))

/-- A body of three fields, none of whose values holds a separator. -/
structure Form (body : CString) (ssid pass flag : Bytes) : Prop where
  text : body.bytes = formBytes ssid pass flag
  ssidPart : Component ssid
  passPart : Component pass
  flagPart : Component flag

namespace Form

variable {body : CString} {ssid pass flag : Bytes}

theorem separated {value : Bytes} (component : Component value) :
    ∀ code ∈ value ++ [0x26], code ≠ 0x3D := by
  intro code member
  rcases List.mem_append.mp member with inside | separator
  · exact (component code inside).1
  · rw [List.mem_singleton.mp separator]
    decide

theorem strstr_text (form : Form body ssid pass flag) {name : UInt8} (different : name ≠ 0x73)
    (notEquals : name ≠ 0x3D) :
    strstr [name, 0x3D] body.bytes =
      strstr [name, 0x3D] (0x70 :: 0x3D :: (pass ++ 0x26 :: 0x6F :: 0x3D :: flag)) := by
  have skipped := strstr_skip name (ssid ++ [0x26])
    (0x70 :: 0x3D :: (pass ++ 0x26 :: 0x6F :: 0x3D :: flag)) (separated form.ssidPart) (by simp)
  rw [form.text, formBytes, strstr_other different notEquals, ← skipped, List.append_assoc]
  rfl

theorem extract_ssid (form : Form body ssid pass flag) (size : Nat) :
    extractField body [0x73] size = some (urlDecode size ssid) := by
  have found : strstr [0x73, 0x3D] body.bytes =
      some (0x73 :: 0x3D :: (ssid ++ 0x26 :: 0x70 :: 0x3D :: (pass ++ 0x26 :: 0x6F :: 0x3D ::
        flag))) := by
    rw [form.text, formBytes, strstr_found]
  exact extractField_at size found (takeWhile_component form.ssidPart _)

theorem extract_pass (form : Form body ssid pass flag) (size : Nat) :
    extractField body [0x70] size = some (urlDecode size pass) := by
  have found : strstr [0x70, 0x3D] body.bytes =
      some (0x70 :: 0x3D :: (pass ++ 0x26 :: 0x6F :: 0x3D :: flag)) := by
    rw [form.strstr_text (by decide) (by decide), strstr_found]
  exact extractField_at size found (takeWhile_component form.passPart _)

theorem extract_open (form : Form body ssid pass flag) (size : Nat) :
    extractField body [0x6F] size = some (urlDecode size flag) := by
  have skipped := strstr_skip 0x6F (pass ++ [0x26]) (0x6F :: 0x3D :: flag)
    (separated form.passPart) (by simp)
  have found : strstr [0x6F, 0x3D] body.bytes = some (0x6F :: 0x3D :: (flag ++ [])) := by
    rw [form.strstr_text (by decide) (by decide), strstr_other (by decide) (by decide),
      List.append_nil, ← strstr_found, ← skipped, List.append_assoc]
    rfl
  have whole : (flag ++ []).takeWhile (· != 0x26) = flag := by
    rw [List.append_nil, List.takeWhile_eq_self_iff]
    intro code member
    simpa using (form.flagPart code member).2.1
  exact extractField_at size found whole

end Form

theorem form_encoded (ssid pass : Bytes) (isOpen : Bool) :
    Form (CString.ofBuffer (formBytes (ssid.flatMap Uri.encodeByte) (pass.flatMap Uri.encodeByte)
        (if isOpen then [0x31] else [0x30])))
      (ssid.flatMap Uri.encodeByte) (pass.flatMap Uri.encodeByte)
      (if isOpen then [0x31] else [0x30]) := by
  have flagPart : Component (if isOpen then [0x31] else [0x30]) := by
    cases isOpen <;> simp [Component]
  refine ⟨?_, component_encoded _, component_encoded _, flagPart⟩
  rw [CString.ofBuffer]
  apply List.takeWhile_eq_self_iff.mpr
  intro code member
  simp only [formBytes, List.mem_cons, List.mem_append] at member
  rcases member with rfl | rfl | inside | rfl | rfl | rfl | inside | rfl | rfl | rfl | inside
  · rfl
  · rfl
  · simpa using (component_encoded _ code inside).2.2
  · rfl
  · rfl
  · rfl
  · simpa using (component_encoded _ code inside).2.2
  · rfl
  · rfl
  · rfl
  · simpa using (flagPart code inside).2.2

theorem submitBody_eq {name password : Text} {ssid pass : CString}
    (named : Utf8.encode name = ssid.bytes) (worded : Utf8.encode password = pass.bytes)
    (isOpen : Bool) :
    submitBody name password isOpen =
      formBytes (ssid.bytes.flatMap Uri.encodeByte) (pass.bytes.flatMap Uri.encodeByte)
        (if isOpen then [0x31] else [0x30]) := by
  rw [submitBody, Uri.encodeURIComponent_bytes, Uri.encodeURIComponent_bytes, named, worded]
  simp [formBytes]

theorem submitBody_length {name password : Text} {ssid pass : CString}
    (named : Utf8.encode name = ssid.bytes) (worded : Utf8.encode password = pass.bytes)
    (isOpen : Bool) :
    (submitBody name password isOpen).length ≤ 9 + 3 * ssid.length + 3 * pass.length := by
  have ssidLength := Uri.encoded_length_le ssid.bytes
  have passLength := Uri.encoded_length_le pass.bytes
  have flagLength : (if isOpen then [0x31] else [0x30] : Bytes).length = 1 := by
    cases isOpen <;> rfl
  rw [submitBody_eq named worded, formBytes]
  simp only [List.length_cons, List.length_append, flagLength, CString.length]
  omega

theorem form_submitted {name password : Text} {ssid pass : CString}
    (named : Utf8.encode name = ssid.bytes) (worded : Utf8.encode password = pass.bytes)
    (isOpen : Bool) :
    Form (CString.ofBuffer (submitBody name password isOpen))
      (ssid.bytes.flatMap Uri.encodeByte) (pass.bytes.flatMap Uri.encodeByte)
      (if isOpen then [0x31] else [0x30]) := by
  rw [submitBody_eq named worded]
  exact form_encoded ssid.bytes pass.bytes isOpen

theorem saveHandler_submitted {state : MgrState}
    (accepting : ¬(state = .connecting ∨ state = .connected)) {name password : Text}
    {ssid pass : CString} (named : Utf8.encode name = ssid.bytes)
    (worded : Utf8.encode password = pass.bytes) (nonempty : ssid.bytes ≠ [])
    (ssidFits : ssid.length ≤ saveFieldSize - 1) (passFits : pass.length ≤ saveFieldSize - 1)
    (isOpen : Bool) :
    saveHandler state (submitBody name password isOpen) = .connect ssid pass isOpen := by
  have form := form_submitted named worded isOpen
  have notEmpty : submitBody name password isOpen ≠ [] := by simp [submitBody]
  have flag : (fieldText (some (urlDecode openFieldSize
      (if isOpen then [0x31] else [0x30])))).bytes.head? =
        some (if isOpen then 0x31 else 0x30) := by
    cases isOpen <;> decide
  rw [saveHandler, if_neg accepting, if_neg notEmpty]
  simp only [form.extract_ssid, form.extract_pass, form.extract_open, fieldText_encoded ssidFits,
    fieldText_encoded passFits, nonempty, if_false, flag]
  cases isOpen <;> rfl

end HydroGovernor
