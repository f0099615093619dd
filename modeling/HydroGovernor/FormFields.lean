import HydroGovernor.UrlDecode

/-! extract_field on the buffer of its caller, and the named pair of a form body. -/

namespace HydroGovernor

open Firmware

/-! extract_field -/

/-- Behind `p` the memory holds the rest of the body and its NUL. -/
def extractFieldInto (body field : CString) (dstSize : Nat) (dst : TrackedBuffer) :
    Bool × TrackedBuffer :=
  match findField body.bytes (fieldKey field.bytes) with
  | none => (false, dst)
  | some found =>
      let p := found.drop (fieldKey field.bytes).length
      let rawLen := (p.takeWhile (· != 0x26)).length
      (true, (urlDecodeBuffer rawLen dstSize (.ofCells (p ++ [0])) dst).dst)

theorem extractFieldInto_eq (body field : CString) (dstSize : Nat) (dst : TrackedBuffer) :
    extractFieldInto body field dstSize dst =
      match extractField body field.bytes dstSize with
      | none => (false, dst)
      | some decoded => (true, dst.store 0 (decoded ++ [0])) := by
  rw [extractFieldInto, extractField]
  cases findField body.bytes (fieldKey field.bytes) with
  | none => rfl
  | some found =>
      let p := found.drop (fieldKey field.bytes).length
      have inside : (p.takeWhile (· != 0x26)).length ≤ p.length :=
        (List.takeWhile_prefix _).length_le
      obtain ⟨offsets, result, _⟩ := urlDecodeBuffer_eq (p.takeWhile (· != 0x26)).length dstSize
        (.ofCells (p ++ [0])) dst (by
          simp only [TrackedBuffer.ofCells, List.length_append]
          omega)
      have raw : (p ++ [0]).take (p.takeWhile (· != 0x26)).length = p.takeWhile (· != 0x26) := by
        rw [List.take_append_of_le_length inside]
        exact (List.prefix_iff_eq_take.mp (List.takeWhile_prefix _)).symm
      simp only [Option.map_some]
      rw [result]
      simp only [TrackedBuffer.ofCells, raw, p]

/-! The search -/

theorem strstr_some {needle body p : Bytes} (found : strstr needle body = some p) :
    ∃ front, body = front ++ p ∧ needle <+: p ∧
      ∀ before after, body = before ++ after → needle <+: after → front.length ≤ before.length := by
  induction body with
  | nil =>
      rw [strstr] at found
      split at found
      · rename_i empty
        cases found
        exact ⟨[], rfl, empty ▸ List.prefix_rfl, fun _ _ _ _ => Nat.zero_le _⟩
      · cases found
  | cons byte rest ih =>
      rw [strstr] at found
      split at found
      · rename_i here
        cases found
        exact ⟨[], rfl, List.isPrefixOf_iff_prefix.mp here, fun _ _ _ _ => Nat.zero_le _⟩
      · rename_i notHere
        obtain ⟨front, split, starts, first⟩ := ih found
        refine ⟨byte :: front, by rw [split, List.cons_append], starts, ?_⟩
        intro before after split' starts'
        cases before with
        | nil =>
            rw [List.nil_append] at split'
            exact absurd (List.isPrefixOf_iff_prefix.mpr (split' ▸ starts')) notHere
        | cons head before =>
            have later := first before after (List.cons.inj split').2 starts'
            exact Nat.succ_le_succ later

theorem strstr_none {needle body : Bytes} (absent : strstr needle body = none) :
    ¬ needle <:+: body := by
  induction body with
  | nil =>
      rw [strstr] at absent
      intro inside
      rw [if_pos (List.eq_nil_of_infix_nil inside)] at absent
      cases absent
  | cons byte rest ih =>
      rw [strstr] at absent
      split at absent
      · cases absent
      · rename_i notHere
        intro inside
        rcases List.infix_cons_iff.mp inside with starts | later
        · exact notHere (List.isPrefixOf_iff_prefix.mpr starts)
        · exact ih absent later

theorem findField_eq (body key : Bytes) : findField body key = strstr key body := by
  rw [findField]
  cases found : strstr key body with
  | some p => rfl
  | none =>
      rw [if_neg]
      intro starts
      exact strstr_none found (List.isPrefixOf_iff_prefix.mp starts).isInfix

/-! The named pair -/

/-- What extract_field is to do: the decoded value of the first pair of the name and a NUL go
into dst, or nothing does. -/
def FindsField (body field : CString) (dstSize : Nat) (dst : TrackedBuffer) : Prop :=
  extractFieldInto body field dstSize dst =
    match (Form.pairs body.bytes).lookup field.bytes with
    | none => (false, dst)
    | some value => (true, dst.store 0 (urlDecode dstSize value ++ [0]))

/-- A name that a form can hold as it is. -/
structure FieldName (field : CString) : Prop where
  short : field.length < 31
  noEquals : Form.equalsSign ∉ field.bytes
  noAmpersand : Form.ampersand ∉ field.bytes

theorem FieldName.key {field : CString} (name : FieldName field) :
    fieldKey field.bytes = field.bytes ++ [Form.equalsSign] := by
  have short := name.short
  apply List.take_of_length_le
  rw [List.length_append, List.length_singleton]
  exact Nat.le_of_lt_succ (Nat.succ_lt_succ short)

def BeginsPair (body p : Bytes) : Prop :=
  p = body ∨ ∃ front, body = front ++ Form.ampersand :: p

theorem lookup_before {name front p body : Bytes} (split : body = front ++ p)
    (first : ∀ before after, body = before ++ after → name ++ [Form.equalsSign] <+: after →
      front.length ≤ before.length)
    {earlier : Bytes} (before : front = earlier ++ [Form.ampersand]) :
    (Form.pairs earlier).lookup name = none := by
  rw [List.lookup_eq_none_iff]
  rintro ⟨other, value⟩ member
  apply bne_iff_ne.mpr
  rintro rfl
  obtain ⟨left, right, whole⟩ := Form.pair_infix member
  have bound := first left (name ++ Form.equalsSign :: value ++ right ++ Form.ampersand :: p)
    (by rw [split, before, ← whole]; simp) ⟨value ++ right ++ Form.ampersand :: p, by simp⟩
  rw [before, ← whole] at bound
  simp only [List.length_append, List.length_cons, List.length_nil] at bound
  omega

theorem lookup_found {field : CString} (name : FieldName field) {body after : Bytes}
    (found : strstr (field.bytes ++ [Form.equalsSign]) body =
      some (field.bytes ++ Form.equalsSign :: after))
    (begins : BeginsPair body (field.bytes ++ Form.equalsSign :: after)) :
    (Form.pairs body).lookup field.bytes = some (after.takeWhile (· != 0x26)) := by
  obtain ⟨others, here⟩ := Form.pairs_begin name.noEquals name.noAmpersand after
  rcases begins with whole | ⟨earlier, whole⟩
  · rw [← whole, here, List.lookup_cons_self]
    rfl
  · obtain ⟨front, split, _, first⟩ := strstr_some found
    have same : front ++ (field.bytes ++ Form.equalsSign :: after) =
        (earlier ++ [Form.ampersand]) ++ (field.bytes ++ Form.equalsSign :: after) := by
      rw [← split, whole, List.append_assoc, List.singleton_append]
    have nothing := lookup_before split first (List.append_cancel_right same)
    calc
      (Form.pairs body).lookup field.bytes =
          (Form.pairs (field.bytes ++ Form.equalsSign :: after)).lookup field.bytes := by
        rw [whole, Form.pairs_append, List.lookup_append, nothing, Option.none_or]
      _ = some (after.takeWhile (· != 0x26)) := by
        rw [here, List.lookup_cons_self]
        rfl

theorem lookup_absent {field : CString} {body : Bytes}
    (absent : strstr (field.bytes ++ [Form.equalsSign]) body = none) :
    (Form.pairs body).lookup field.bytes = none := by
  rw [List.lookup_eq_none_iff]
  rintro ⟨other, value⟩ member
  apply bne_iff_ne.mpr
  rintro rfl
  have starts : field.bytes ++ [Form.equalsSign] <+: field.bytes ++ Form.equalsSign :: value :=
    ⟨value, by rw [List.append_assoc, List.singleton_append]⟩
  exact strstr_none absent (starts.isInfix.trans (Form.pair_infix member))

def rawValue (field p : Bytes) : Bytes := (p.drop (field.length + 1)).takeWhile (· != 0x26)

/-- The first place in the body where the name and an equals sign stand, if there is one, begins
a pair. -/
def FirstPlaceBegins (body field : CString) : Prop :=
  ∀ p, strstr (field.bytes ++ [Form.equalsSign]) body.bytes = some p → BeginsPair body.bytes p

theorem store_inj {dst : TrackedBuffer} {first second : Bytes}
    (same : dst.store 0 first = dst.store 0 second) (fits : first.length ≤ dst.cells.length) :
    first = second := by
  have long : first.length = second.length := by
    have writes := congrArg TrackedBuffer.writes same
    rw [TrackedBuffer.store_writes, TrackedBuffer.store_writes] at writes
    simpa using congrArg List.length (List.append_cancel_left writes)
  have holds : ∀ text : Bytes, text.length ≤ dst.cells.length →
      (dst.store 0 text).Holds text := by
    intro text room
    exact (TrackedBuffer.Holds.nothing dst).store rfl (by simpa using room)
  have other := holds second (long ▸ fits)
  rw [← same] at other
  exact (holds first fits).unique other long

theorem extractFieldInto_found {body field : CString} (name : FieldName field) {p : Bytes}
    (found : strstr (field.bytes ++ [Form.equalsSign]) body.bytes = some p) (dstSize : Nat)
    (dst : TrackedBuffer) :
    extractFieldInto body field dstSize dst =
      (true, dst.store 0 (urlDecode dstSize (rawValue field.bytes p) ++ [0])) := by
  rw [extractFieldInto_eq, extractField, findField_eq, name.key, found, List.length_append,
    List.length_singleton]
  rfl

/-- extract_field finds exactly the named pair where the first place with its name is one. -/
theorem extract_field_finds (body field : CString) (dstSize : Nat) (dst : TrackedBuffer)
    (name : FieldName field) (begins : FirstPlaceBegins body field) :
    FindsField body field dstSize dst := by
  cases found : strstr (field.bytes ++ [Form.equalsSign]) body.bytes with
  | none =>
      rw [FindsField, lookup_absent found, extractFieldInto_eq, extractField, findField_eq,
        name.key, found]
      rfl
  | some p =>
      obtain ⟨_, _, ⟨after, whole⟩, _⟩ := strstr_some found
      rw [List.append_assoc, List.singleton_append] at whole
      subst whole
      have raw : rawValue field.bytes (field.bytes ++ Form.equalsSign :: after) =
          after.takeWhile (· != 0x26) := by
        simp [rawValue]
      rw [FindsField, extractFieldInto_found name found, lookup_found name found (begins _ found),
        raw]

/-- Wherever that place is, the result is only right if what stands there is decoded like the value
of the pair. -/
theorem misplaced_field {body field : CString} {dstSize : Nat} {dst : TrackedBuffer} {p : Bytes}
    (name : FieldName field) (positive : 1 ≤ dstSize) (sized : dstSize ≤ dst.cells.length)
    (found : strstr (field.bytes ++ [Form.equalsSign]) body.bytes = some p)
    (finds : FindsField body field dstSize dst) :
    ∃ value, (Form.pairs body.bytes).lookup field.bytes = some value ∧
      urlDecode dstSize (rawValue field.bytes p) = urlDecode dstSize value := by
  have fits : (urlDecode dstSize (rawValue field.bytes p) ++ [0]).length ≤ dst.cells.length := by
    have short := urlDecode_length dstSize (rawValue field.bytes p)
    rw [List.length_append, List.length_singleton]
    omega
  rw [FindsField, extractFieldInto_found name found] at finds
  cases looked : (Form.pairs body.bytes).lookup field.bytes with
  | none =>
      rw [looked] at finds
      cases congrArg Prod.fst finds
  | some value =>
      rw [looked] at finds
      have stored := store_inj (congrArg Prod.snd finds) fits
      exact ⟨value, rfl, List.append_cancel_right stored⟩

/-- The field `pass` comes first, and the search for `s` ends in its name. -/
theorem other_field_extracted :
    ¬ ∀ body field dstSize dst, FieldName field → 1 ≤ dstSize → dstSize ≤ dst.cells.length →
      FindsField body field dstSize dst := by
  intro every
  have finds := every ⟨ascii "pass=x&s=cafe", by decide⟩ ⟨ascii "s", by decide⟩ 64
    (.zeroed 64) ⟨by decide, by decide, by decide⟩ (by decide) (by decide)
  rw [FindsField, extractFieldInto_eq] at finds
  have cell := congrArg (fun result : Bool × TrackedBuffer => result.2.cells.take 4) finds
  revert cell
  decide +kernel

/-- The name `pass` is found behind a field whose value ends like it. -/
theorem pass_found : FindsField ⟨ascii "n=compass&pass=%41", by decide⟩ ⟨ascii "pass", by decide⟩ 64
    (.zeroed 64) := by
  apply extract_field_finds _ _ 64 _ ⟨by decide, by decide, by decide⟩
  intro p found
  have place : strstr (ascii "pass" ++ [Form.equalsSign]) (ascii "n=compass&pass=%41") =
      some (ascii "pass=%41") := by decide
  cases place.symm.trans found
  exact .inr ⟨ascii "n=compass", by decide⟩

/-! The fields of save_handler -/

def ssidField : CString := ⟨[0x73], rfl⟩
def passField : CString := ⟨[0x70], rfl⟩
def openField : CString := ⟨[0x6F], rfl⟩

/-- The three arrays after the extract_field calls. -/
structure SaveArrays where
  ssid : TrackedBuffer
  pass : TrackedBuffer
  openStr : TrackedBuffer

def saveArrays (received : Bytes) : SaveArrays :=
  let body := CString.ofBuffer ((TrackedBuffer.zeroed saveBodySize).store 0 received).cells
  { ssid := (extractFieldInto body ssidField saveFieldSize (.zeroed saveFieldSize)).2
    pass := (extractFieldInto body passField saveFieldSize (.zeroed saveFieldSize)).2
    openStr := (extractFieldInto body openField openFieldSize (.zeroed openFieldSize)).2 }

/-- What wifi_manager_connect is given. -/
structure SaveFields where
  ssid : CString
  pass : CString
  isOpen : Bool
  deriving DecidableEq, Repr

def SaveArrays.fields (arrays : SaveArrays) : SaveFields where
  ssid := CString.ofBuffer arrays.ssid.cells
  pass := CString.ofBuffer arrays.pass.cells
  isOpen := arrays.openStr.cells.head? == some 0x31

theorem extracted_text (body field : CString) {size : Nat} (positive : 0 < size) :
    CString.ofBuffer (extractFieldInto body field size (.zeroed size)).2.cells =
      fieldText (extractField body field.bytes size) := by
  rw [extractFieldInto_eq]
  cases found : extractField body field.bytes size with
  | none => exact @TrackedBuffer.zeroed_store size [] positive
  | some decoded =>
      apply TrackedBuffer.stored_text
      obtain ⟨p, _, result⟩ := Option.map_eq_some_iff.mp found
      have short := urlDecode_length size
        ((p.drop (fieldKey field.bytes).length).takeWhile (· != 0x26))
      have sized : (TrackedBuffer.zeroed size).cells.length = size := List.length_replicate
      rw [result] at short
      omega

theorem ofBuffer_head (cells : Bytes) {code : UInt8} (notNul : code ≠ 0) :
    ((CString.ofBuffer cells).bytes.head? == some code) = (cells.head? == some code) := by
  cases cells with
  | nil => rfl
  | cons byte rest =>
      by_cases nul : byte = 0
      · subst nul
        simp [CString.ofBuffer, notNul.symm]
      · simp [CString.ofBuffer, nul]

theorem saveArrays_fields {received : Bytes} (fits : received.length < saveBodySize) :
    (saveArrays received).fields =
      { ssid := fieldText (extractField (CString.ofBuffer received) [0x73] saveFieldSize)
        pass := fieldText (extractField (CString.ofBuffer received) [0x70] saveFieldSize)
        isOpen := (fieldText (extractField (CString.ofBuffer received) [0x6F]
          openFieldSize)).bytes.head? == some 0x31 } := by
  rw [SaveArrays.fields, ← ofBuffer_head _ (by decide)]
  simp only [saveArrays, TrackedBuffer.zeroed_store fits]
  rw [extracted_text _ _ (by decide), extracted_text _ _ (by decide),
    extracted_text _ _ (by decide)]
  rfl

/-- The body that the setup page posts for any two texts. -/
def encodedForm (ssid pass : CString) (isOpen : Bool) : Bytes :=
  formBytes (ssid.bytes.flatMap Uri.encodeByte) (pass.bytes.flatMap Uri.encodeByte)
    (if isOpen then [0x31] else [0x30])

/-- The three calls give back what the setup page encoded, whatever the texts hold. -/
theorem form_recovered (ssid pass : CString) (isOpen : Bool) (ssidFits : ssid.length ≤ 63)
    (passFits : pass.length ≤ 63) (bodyFits : (encodedForm ssid pass isOpen).length ≤ 383) :
    (saveArrays (receiveWhole (encodedForm ssid pass isOpen))).fields = ⟨ssid, pass, isOpen⟩ := by
  have form := form_encoded ssid.bytes pass.bytes isOpen
  have whole : receiveWhole (encodedForm ssid pass isOpen) = encodedForm ssid pass isOpen := by
    apply List.take_of_length_le
    rw [saveBodySize]
    omega
  have flag : ((fieldText (some (urlDecode openFieldSize
      (if isOpen then [0x31] else [0x30])))).bytes.head? == some 0x31) = isOpen := by
    cases isOpen <;> decide
  rw [whole, saveArrays_fields (Nat.lt_succ_of_le bodyFits), encodedForm, form.extract_ssid,
    form.extract_pass, form.extract_open, fieldText_encoded ssidFits, fieldText_encoded passFits,
    flag]

/-- Texts that look like other fields. -/
theorem separators_recovered :
    (saveArrays (receiveWhole (encodedForm ⟨ascii "p=a&s=+%41", by decide⟩
      ⟨ascii "o=1&p=%", by decide⟩ false))).fields =
      ⟨⟨ascii "p=a&s=+%41", by decide⟩, ⟨ascii "o=1&p=%", by decide⟩, false⟩ :=
  form_recovered ⟨ascii "p=a&s=+%41", by decide⟩ ⟨ascii "o=1&p=%", by decide⟩ false (by decide)
    (by decide) (by decide +kernel)

end HydroGovernor
