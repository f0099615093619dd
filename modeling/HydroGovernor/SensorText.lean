import HydroGovernor.Library.JsonTexts
import HydroGovernor.OtaUpdate
import HydroGovernor.PushTask
import HydroGovernor.ScanListing

/-! The text of sensor_get_json, through the buffers entry, sp and buf. -/

namespace HydroGovernor

open Firmware
open Firmware.Utf8 (Text)

/-! sensor_get_json -/

def wsJsonBufSize : Nat := 384
def entrySize : Nat := 32

/-- The tray as `%.1f`, `%.1f` and `%.2f` show it. -/
structure TrayTexts where
  temp : CString
  hum : CString
  flow : CString

/-- The loop over the sensors, with its buffers and `sp_len`. -/
def entryLoop : List SensorMeta → TrackedBuffer → TrackedBuffer → Nat →
    TrackedBuffer × TrackedBuffer × Nat
  | [], entry, sp, spLen => (entry, sp, spLen)
  | s :: rest, entry, sp, spLen =>
      let text := sensorEntry s rest.isEmpty
      let entry := entry.snprintf entrySize text
      let wrote := text.length
      if spLen + wrote < sensorTextSize - 2 then
        let (copied, entry) := entry.load 0 wrote
        entryLoop rest entry (sp.store spLen copied) (spLen + wrote)
      else entryLoop rest entry sp spLen

def trayText (tray : TrayTexts) (sensors : Bytes) : Bytes :=
  ascii "\x7b\"temp\":" ++ tray.temp.bytes ++ ascii ",\"hum\":" ++ tray.hum.bytes ++
    ascii ",\"flow\":" ++ tray.flow.bytes ++ ascii ",\"sensors\":" ++ sensors ++ ascii "\x7d"

/-- What a call returns, and its buffers. -/
structure SensorText where
  ret : EspErr
  entry : TrackedBuffer
  sp : TrackedBuffer
  buf : TrackedBuffer

def sensorGetText (registry : Registry) (tray : TrayTexts) (entry buf : TrackedBuffer)
    (len : Nat) : SensorText :=
  let sp := (TrackedBuffer.zeroed sensorTextSize).store 0 (ascii "\x7b")
  let (entry, sp, spLen) := entryLoop registry.sensors entry sp 1
  let sp := sp.store spLen (ascii "\x7d")
  let sp := sp.store (spLen + 1) [0]
  let text := trayText tray (CString.ofBuffer sp.cells).bytes
  let wrote := text.length
  { ret := if 0 < wrote ∧ (wrote : Int) < asInt len then .ok else .noMem
    entry := entry
    sp := sp
    buf := buf.snprintf len text }

/-! The buffers -/

def entryTexts : List SensorMeta → Bytes
  | [] => []
  | s :: rest => sensorEntry s rest.isEmpty ++ entryTexts rest

def sensorsText (sensors : List SensorMeta) : Bytes :=
  ascii "\x7b" ++ entryTexts sensors ++ ascii "\x7d"

/-- The whole text of a registry and a tray. -/
def fullText (registry : Registry) (tray : TrayTexts) : Bytes :=
  trayText tray (sensorsText registry.sensors)

theorem entryTexts_length_le {sensors : List SensorMeta}
    (short : ∀ s ∈ sensors, s.name.length ≤ 15) :
    (entryTexts sensors).length ≤ 24 * sensors.length := by
  induction sensors with
  | nil => exact le_refl 0
  | cons s rest ih =>
      have here := sensorEntry_length_le (short s List.mem_cons_self) rest.isEmpty
      have later := ih (fun other member => short other (List.mem_cons_of_mem _ member))
      rw [entryTexts, List.length_append, List.length_cons]
      omega

/-- The array is used within its first cells only. -/
structure UsedWithin (size : Nat) (buffer : TrackedBuffer) : Prop where
  sized : buffer.cells.length = size
  reads : ∀ offset ∈ buffer.reads, offset < size
  writes : ∀ offset ∈ buffer.writes, offset < size

theorem entry_copied {entry : TrackedBuffer} (text : Bytes) (used : UsedWithin entrySize entry)
    (fits : text.length < entrySize) :
    ((entry.snprintf entrySize text).load 0 text.length).1 = text ∧
      UsedWithin entrySize ((entry.snprintf entrySize text).load 0 text.length).2 := by
  have holds : (entry.snprintf entrySize text).Holds (text ++ [0]) := by
    rw [TrackedBuffer.snprintf_fits fits]
    apply (TrackedBuffer.Holds.nothing entry).store rfl
    rw [used.sized, List.length_nil, List.length_append, List.length_singleton]
    omega
  constructor
  · rw [holds.load (by rw [List.length_append]; omega), List.drop_zero, List.take_left]
  · constructor
    case sized => exact (TrackedBuffer.snprintf_length _ _ _).trans used.sized
    case reads =>
        intro offset member
        rw [TrackedBuffer.load_reads, TrackedBuffer.snprintf_fits fits,
          TrackedBuffer.store_reads] at member
        rcases List.mem_append.mp member with before | here
        · exact used.reads offset before
        · rw [List.mem_range'_1] at here
          omega
    case writes => exact TrackedBuffer.snprintf_writes used.writes

theorem entryLoop_copies {sensors : List SensorMeta} {entry : TrackedBuffer}
    (sp : TrackedBuffer) (spLen : Nat) (short : ∀ s ∈ sensors, s.name.length ≤ 15)
    (room : spLen + 24 * sensors.length ≤ 241) (used : UsedWithin entrySize entry) :
    ∃ last, UsedWithin entrySize last ∧
      entryLoop sensors entry sp spLen =
        (last, sp.store spLen (entryTexts sensors), spLen + (entryTexts sensors).length) := by
  induction sensors generalizing entry sp spLen with
  | nil => exact ⟨entry, used, rfl⟩
  | cons s rest ih =>
      have wrote := sensorEntry_length_le (short s List.mem_cons_self) rest.isEmpty
      have sizes : entrySize = 32 ∧ sensorTextSize = 256 := ⟨rfl, rfl⟩
      rw [List.length_cons] at room
      obtain ⟨copied, usedAfter⟩ := entry_copied (sensorEntry s rest.isEmpty) used (by omega)
      obtain ⟨last, usedLast, later⟩ := ih (sp.store spLen (sensorEntry s rest.isEmpty))
        (spLen + (sensorEntry s rest.isEmpty).length)
        (fun other member => short other (List.mem_cons_of_mem _ member)) (by omega) usedAfter
      refine ⟨last, usedLast, ?_⟩
      rw [entryLoop]
      dsimp only
      rw [if_pos (by omega), copied, later, entryTexts, TrackedBuffer.store_append,
        List.length_append, Nat.add_assoc]

theorem sensorsText_length {sensors : List SensorMeta} (fits : sensors.length ≤ maxSensors)
    (short : ∀ s ∈ sensors, s.name.length ≤ 15) : (sensorsText sensors).length ≤ 242 := by
  have entries := entryTexts_length_le short
  have braces : (ascii "\x7b").length = 1 ∧ (ascii "\x7d").length = 1 := ⟨rfl, rfl⟩
  rw [maxSensors] at fits
  rw [sensorsText, List.length_append, List.length_append, braces.1, braces.2]
  omega

theorem sensorEntry_noNul (s : SensorMeta) (isLast : Bool) :
    (sensorEntry s isLast).all (· != 0) = true := by
  have quotes : (ascii "\"").all (· != 0) = true ∧ (ascii "\":").all (· != 0) = true := ⟨rfl, rfl⟩
  have flag : (if s.alive then ascii "true" else ascii "false").all (· != 0) = true := by
    split
    · rfl
    · rfl
  have comma : (if isLast then [] else ascii "," : Bytes).all (· != 0) = true := by
    split
    · rfl
    · rfl
  simp only [sensorEntry, List.all_append, quotes.1, quotes.2, s.name.noNul, flag, comma,
    Bool.and_true]

theorem sensorsText_noNul (sensors : List SensorMeta) :
    (sensorsText sensors).all (· != 0) = true := by
  have entries : (entryTexts sensors).all (· != 0) = true := by
    induction sensors with
    | nil => rfl
    | cons s rest ih => rw [entryTexts, List.all_append, sensorEntry_noNul, ih, Bool.and_true]
  have braces : (ascii "\x7b").all (· != 0) = true ∧ (ascii "\x7d").all (· != 0) = true :=
    ⟨rfl, rfl⟩
  rw [sensorsText, List.all_append, List.all_append, braces.1, braces.2, entries, Bool.and_true,
    Bool.and_true]

theorem sp_object {sensors : List SensorMeta} (fits : sensors.length ≤ maxSensors)
    (short : ∀ s ∈ sensors, s.name.length ≤ 15) :
    (CString.ofBuffer ((TrackedBuffer.zeroed sensorTextSize).store 0
      (sensorsText sensors ++ [0])).cells).bytes = sensorsText sensors := by
  have length := sensorsText_length fits short
  have sized : (TrackedBuffer.zeroed sensorTextSize).cells.length = 256 := List.length_replicate
  rw [TrackedBuffer.stored_text (by omega)]
  exact congrArg CString.bytes (CString.ofBuffer_bytes ⟨_, sensorsText_noNul sensors⟩)

/-- What a call does when no name is longer than sensor_register stores it. -/
theorem sensorGetText_eq {registry : Registry} (short : ∀ s ∈ registry.sensors, s.name.length ≤ 15)
    (tray : TrayTexts) {entry : TrackedBuffer} (used : UsedWithin entrySize entry)
    (buf : TrackedBuffer) (len : Nat) :
    ∃ last, UsedWithin entrySize last ∧
      sensorGetText registry tray entry buf len =
        { ret := if 0 < (fullText registry tray).length ∧
            ((fullText registry tray).length : Int) < asInt len then .ok else .noMem
          entry := last
          sp := (TrackedBuffer.zeroed sensorTextSize).store 0 (sensorsText registry.sensors ++ [0])
          buf := buf.snprintf len (fullText registry tray) } := by
  have fits := registry.fits
  rw [maxSensors] at fits
  obtain ⟨last, usedLast, copies⟩ := entryLoop_copies
    ((TrackedBuffer.zeroed sensorTextSize).store 0 (ascii "\x7b")) 1 short
    (by omega) used
  refine ⟨last, usedLast, ?_⟩
  have stored : ((((TrackedBuffer.zeroed sensorTextSize).store 0 (ascii "\x7b")).store 1
      (entryTexts registry.sensors)).store (1 + (entryTexts registry.sensors).length)
        (ascii "\x7d")).store (1 + (entryTexts registry.sensors).length + 1) [0] =
      (TrackedBuffer.zeroed sensorTextSize).store 0 (sensorsText registry.sensors ++ [0]) := by
    have opening : (ascii "\x7b").length = 1 := rfl
    have closing : (ascii "\x7d").length = 1 := rfl
    rw [sensorsText, TrackedBuffer.store_append, TrackedBuffer.store_append,
      TrackedBuffer.store_append]
    simp only [List.length_append, opening, closing, Nat.zero_add]
  rw [sensorGetText, copies]
  dsimp only
  rw [stored, sp_object registry.fits short]
  rfl

/-! The text as JSON -/

/-- A name that needs no escape in a JSON string. -/
def PlainName (name : CString) : Prop :=
  ∀ byte ∈ name.bytes, 0x20 ≤ byte ∧ byte ≠ 0x22 ∧ byte ≠ 0x5C

/-- The text of a JSON number. -/
structure NumberText (text : CString) (value : Json) : Prop where
  isAscii : ∀ byte ∈ text.bytes, byte.toNat < 0x80
  number : Json.readNumber (text.bytes.map byteChar) = some (value, [])

namespace Reading

variable (reading : Reading)

theorem plainName {name : CString} (plain : PlainName name) :
    (reading.text name.bytes).flatMap Json.renderChar = reading.text name.bytes := by
  have printable : ∀ byte ∈ name.bytes, 0x20 ≤ byte := fun byte member => (plain byte member).1
  have unescaped : name.bytes.flatMap escapeByte = name.bytes := by
    rw [List.flatMap_congr (g := fun byte => [byte]), List.flatMap_singleton']
    intro byte member
    obtain ⟨least, notQuote, notBackslash⟩ := plain byte member
    exact escapeByte_plain (not_or.mpr ⟨notBackslash, notQuote⟩) least
  calc
    (reading.text name.bytes).flatMap Json.renderChar =
        reading.text (name.bytes.flatMap escapeByte) := (reading.escaped printable).symm
    _ = reading.text name.bytes := by rw [unescaped]

theorem asciiBytes {bytes : Bytes} (isAscii : ∀ byte ∈ bytes, byte.toNat < 0x80)
    (rest : Bytes) : reading.text (bytes ++ rest) = bytes.map byteChar ++ reading.text rest := by
  induction bytes with
  | nil => rfl
  | cons byte bytes ih =>
      rw [List.cons_append, reading.cons_ascii (isAscii byte List.mem_cons_self),
        ih (fun other member => isAscii other (List.mem_cons_of_mem _ member))]
      rfl

theorem sensorEntry {s : SensorMeta} (plain : PlainName s.name) (isLast : Bool) (rest : Bytes) :
    reading.text (HydroGovernor.sensorEntry s isLast ++ rest) =
      Json.renderText (reading.text s.name.bytes) ++
        ':' :: (Json.render (.bool s.alive) ++
          ((if isLast then [] else [',']) ++ reading.text rest)) := by
  have opening (after : Bytes) : reading.text (ascii "\"" ++ after) =
      "\"".toList ++ reading.text after := reading.literal (by simp) after
  have middle (name after : Bytes) : reading.text (name ++ (ascii "\":" ++ after)) =
      reading.text name ++ ("\":".toList ++ reading.text after) := by
    rw [← reading.literal (by simp) after]
    exact reading.append_cons (by decide) name _
  have comma : reading.text ((if isLast then [] else ascii ",") ++ rest) =
      (if isLast then [] else [',']) ++ reading.text rest := by
    cases isLast with
    | true => rfl
    | false => exact reading.literal (by simp) rest
  rw [HydroGovernor.sensorEntry]
  simp only [List.append_assoc]
  rw [opening, middle, reading.flag, comma, Json.renderText, reading.plainName plain]
  simp

def sensors (registry : Registry) : List (Text × Json) :=
  registry.flags.map (fun flag => (reading.text flag.1.bytes, .bool flag.2))

theorem entryTexts {sensors : List SensorMeta} (plain : ∀ s ∈ sensors, PlainName s.name)
    (rest : Bytes) :
    reading.text (HydroGovernor.entryTexts sensors ++ (ascii "\x7d" ++ rest)) =
      Json.renderMembers (sensors.map (fun s => (reading.text s.name.bytes, .bool s.alive))) ++
        reading.text rest := by
  induction sensors with
  | nil => exact reading.literal (by simp) rest
  | cons s later ih =>
      have following := ih (fun other member => plain other (List.mem_cons_of_mem _ member))
      rw [HydroGovernor.entryTexts, List.append_assoc,
        reading.sensorEntry (plain s List.mem_cons_self), following, List.map_cons,
        Json.renderMembers, Json.separator, List.isEmpty_map]
      simp only [List.append_assoc, List.cons_append]

/-- The object of the text, with the three numbers of the tray. -/
def served (registry : Registry) (temp hum flow : Json) : Json :=
  .object [("temp".toList, temp), ("hum".toList, hum), ("flow".toList, flow),
    ("sensors".toList, .object (reading.sensors registry))]

theorem sensorsText {registry : Registry} (plain : ∀ s ∈ registry.sensors, PlainName s.name)
    (rest : Bytes) :
    reading.text (HydroGovernor.sensorsText registry.sensors ++ rest) =
      Json.render (.object (reading.sensors registry)) ++ reading.text rest := by
  have opening (after : Bytes) : reading.text (ascii "\x7b" ++ after) =
      '\x7b' :: reading.text after := reading.literal (by simp) after
  have members : registry.sensors.map (fun s => (reading.text s.name.bytes, Json.bool s.alive)) =
      reading.sensors registry := by
    rw [sensors, Registry.flags, List.map_map]
    rfl
  rw [HydroGovernor.sensorsText, List.append_assoc, List.append_assoc, opening,
    reading.entryTexts plain, members, Json.render, List.cons_append]

def parts (registry : Registry) (tray : TrayTexts) (temp hum flow : Json) :
    List Json.MemberText :=
  [⟨"temp".toList, tray.temp.bytes.map byteChar, temp⟩,
    ⟨"hum".toList, tray.hum.bytes.map byteChar, hum⟩,
    ⟨"flow".toList, tray.flow.bytes.map byteChar, flow⟩,
    ⟨"sensors".toList, Json.render (.object (reading.sensors registry)),
      .object (reading.sensors registry)⟩]

theorem trayText {registry : Registry} (plain : ∀ s ∈ registry.sensors, PlainName s.name)
    {tray : TrayTexts} {temp hum flow : Json} (isTemp : NumberText tray.temp temp)
    (isHum : NumberText tray.hum hum) (isFlow : NumberText tray.flow flow) :
    reading.text (fullText registry tray) =
      '\x7b' :: Json.memberTexts (reading.parts registry tray temp hum flow) := by
  have label (name : String) (isAscii : ∀ char ∈ name.toList, char.toNat < 0x80) (after : Bytes) :
      reading.text (ascii name ++ after) = name.toList ++ reading.text after :=
    reading.literal isAscii after
  have closing : reading.text (ascii "\x7d") = ['\x7d'] := by
    have read := label "\x7d" (by simp) []
    rwa [List.append_nil, reading.empty, List.append_nil] at read
  rw [fullText, HydroGovernor.trayText]
  simp only [List.append_assoc]
  rw [label _ (by simp), reading.asciiBytes isTemp.isAscii, label _ (by simp),
    reading.asciiBytes isHum.isAscii, label _ (by simp), reading.asciiBytes isFlow.isAscii,
    label _ (by simp), reading.sensorsText plain, closing]
  simp [parts, Json.memberTexts, Json.renderText, Json.renderChar, Json.separator]

theorem read_fullText {registry : Registry} (plain : ∀ s ∈ registry.sensors, PlainName s.name)
    {tray : TrayTexts} {temp hum flow : Json} (isTemp : NumberText tray.temp temp)
    (isHum : NumberText tray.hum hum) (isFlow : NumberText tray.flow flow) :
    Json.read (reading.text (fullText registry tray)) =
      some (reading.served registry temp hum flow) := by
  have spells : ∀ part ∈ reading.parts registry tray temp hum flow,
      Json.Spells part.text part.value := by
    intro part member
    simp only [parts, List.mem_cons, List.not_mem_nil, or_false] at member
    rcases member with rfl | rfl | rfl | rfl
    · exact Json.spells_number isTemp.number
    · exact Json.spells_number isHum.number
    · exact Json.spells_number isFlow.number
    · exact Json.spells_render _
  rw [reading.trayText plain isTemp isHum isFlow]
  exact Json.read_of_spells (Json.spells_object spells)

theorem sensors_built {registry : Registry} (tray : Tray)
    (short : ∀ flag ∈ registry.flags, flag.1.length ≤ 15) :
    reading.sensors registry = (sensorGetJson registry tray).sensors.map
      (fun flag => (reading.text flag.1.bytes, .bool flag.2)) := by
  rw [sensorGetJson_all tray short, sensors]

end Reading

/-! Whole calls -/

def Registry.withAlive (registry : Registry) (alive : Nat → Bool) : Registry where
  sensors := registry.sensors.mapIdx (fun index s => { s with alive := alive index })
  fits := by
    rw [List.length_mapIdx]
    exact registry.fits

theorem withAlive_all (property : CString → Prop) {registry : Registry}
    (holds : ∀ s ∈ registry.sensors, property s.name) (alive : Nat → Bool) :
    ∀ s ∈ (registry.withAlive alive).sensors, property s.name := by
  intro s member
  obtain ⟨index, bound, rfl⟩ := List.mem_mapIdx.mp member
  exact holds registry.sensors[index] (List.getElem_mem bound)

/-- A call with a buffer of this length gives the complete text or none, and writes nothing
outside its arrays. -/
structure ServesSensors (registry : Registry) (tray : TrayTexts) (temp hum flow : Json)
    (len : Nat) (result : SensorText) : Prop where
  fits : len = wsJsonBufSize → result.ret = .ok
  refused : result.ret = .noMem ↔ len < (fullText registry tray).length + 1
  otherwise : result.ret = .ok ∨ result.ret = .noMem
  text : result.ret = .ok → (CString.ofBuffer result.buf.cells).bytes = fullText registry tray
  parses : ∀ reading : Reading,
    Json.read (reading.text (fullText registry tray)) =
      some (reading.served registry temp hum flow)
  entry : UsedWithin entrySize result.entry
  sp : UsedWithin sensorTextSize result.sp
  buf : ∀ offset ∈ result.buf.writes, offset < len

theorem fullText_length {registry : Registry} (short : ∀ s ∈ registry.sensors, s.name.length ≤ 15)
    {tray : TrayTexts} (numbers : tray.temp.length + tray.hum.length + tray.flow.length ≤ 40) :
    0 < (fullText registry tray).length ∧ (fullText registry tray).length < wsJsonBufSize := by
  have object := sensorsText_length registry.fits short
  have labels : (ascii "\x7b\"temp\":").length = 8 ∧ (ascii ",\"hum\":").length = 7 ∧
      (ascii ",\"flow\":").length = 8 ∧ (ascii ",\"sensors\":").length = 11 ∧
        (ascii "\x7d").length = 1 := ⟨rfl, rfl, rfl, rfl, rfl⟩
  obtain ⟨temp, hum, flow, sensors, closing⟩ := labels
  simp only [CString.length] at numbers
  simp only [fullText, trayText, List.length_append, temp, hum, flow, sensors, closing,
    wsJsonBufSize]
  omega

theorem fullText_noNul (registry : Registry) (tray : TrayTexts) :
    (fullText registry tray).all (· != 0) = true := by
  have labels : (ascii "\x7b\"temp\":").all (· != 0) = true ∧
      (ascii ",\"hum\":").all (· != 0) = true ∧ (ascii ",\"flow\":").all (· != 0) = true ∧
        (ascii ",\"sensors\":").all (· != 0) = true ∧ (ascii "\x7d").all (· != 0) = true :=
    ⟨rfl, rfl, rfl, rfl, rfl⟩
  obtain ⟨temp, hum, flow, sensors, closing⟩ := labels
  simp only [fullText, trayText, List.all_append, temp, hum, flow, sensors, closing,
    tray.temp.noNul, tray.hum.noNul, tray.flow.noNul, sensorsText_noNul, Bool.and_true]

theorem served_of_names {registry : Registry}
    (short : ∀ s ∈ registry.sensors, s.name.length ≤ 15)
    (plain : ∀ s ∈ registry.sensors, PlainName s.name) {tray : TrayTexts} {temp hum flow : Json}
    (isTemp : NumberText tray.temp temp) (isHum : NumberText tray.hum hum)
    (isFlow : NumberText tray.flow flow)
    (numbers : tray.temp.length + tray.hum.length + tray.flow.length ≤ 40)
    {entry buf : Bytes} {len : Nat} (entrySized : entry.length = entrySize)
    (atMost : len ≤ wsJsonBufSize) (bufSized : len ≤ buf.length) :
    ServesSensors registry tray temp hum flow len
      (sensorGetText registry tray (.ofCells entry) (.ofCells buf) len) := by
  have used : UsedWithin entrySize (.ofCells entry) := ⟨entrySized, nofun, nofun⟩
  obtain ⟨last, usedLast, result⟩ := sensorGetText_eq short tray used (.ofCells buf) len
  obtain ⟨nonempty, below⟩ := fullText_length short numbers
  have signed : asInt len = len := by
    apply asInt_of_lt
    rw [wsJsonBufSize] at atMost
    omega
  have room : 0 < (fullText registry tray).length ∧
      ((fullText registry tray).length : Int) < asInt len ↔
        (fullText registry tray).length < len := by
    rw [signed, Int.ofNat_lt]
    exact and_iff_right nonempty
  rw [result]
  simp only [room]
  constructor
  case fits =>
      intro whole
      rw [← whole] at below
      exact if_pos below
  case refused =>
      by_cases fits : (fullText registry tray).length < len
      · simp only [if_pos fits, reduceCtorEq, false_iff]
        omega
      · simp only [if_neg fits, true_iff]
        omega
  case otherwise =>
      by_cases fits : (fullText registry tray).length < len
      · exact .inl (if_pos fits)
      · exact .inr (if_neg fits)
  case text =>
      intro ok
      have fits : (fullText registry tray).length < len := by
        by_contra tooLong
        cases ok.symm.trans (if_neg tooLong)
      dsimp only
      rw [TrackedBuffer.snprintf_fits fits,
        TrackedBuffer.stored_text (Nat.lt_of_lt_of_le fits bufSized)]
      exact congrArg CString.bytes (CString.ofBuffer_bytes ⟨_, fullText_noNul registry tray⟩)
  case parses =>
      intro reading
      exact reading.read_fullText plain isTemp isHum isFlow
  case entry => exact usedLast
  case sp =>
      have object := sensorsText_length registry.fits short
      constructor
      case sized => exact (TrackedBuffer.store_length _ _ _).trans List.length_replicate
      case reads => simp [TrackedBuffer.zeroed, TrackedBuffer.ofCells]
      case writes =>
          intro offset member
          simp only [TrackedBuffer.store_writes, TrackedBuffer.zeroed, TrackedBuffer.ofCells,
            List.nil_append, List.length_append, List.length_singleton,
            List.mem_range'_1] at member
          rw [sensorTextSize]
          omega
  case buf => exact TrackedBuffer.snprintf_writes nofun

/-- sensor_get_json answers with the whole object, however many sensors there are and whatever
their flags. -/
theorem sensors_served (entries : List (CString × UInt32)) (alive : Nat → Bool)
    (plain : ∀ s ∈ (registered entries).sensors, PlainName s.name) (tray : TrayTexts)
    {temp hum flow : Json} (isTemp : NumberText tray.temp temp) (isHum : NumberText tray.hum hum)
    (isFlow : NumberText tray.flow flow)
    (numbers : tray.temp.length + tray.hum.length + tray.flow.length ≤ 40)
    (entry buf : Bytes) (len : Nat) (entrySized : entry.length = entrySize)
    (atMost : len ≤ wsJsonBufSize) (bufSized : len ≤ buf.length) :
    ServesSensors ((registered entries).withAlive alive) tray temp hum flow len
      (sensorGetText ((registered entries).withAlive alive) tray (.ofCells entry) (.ofCells buf)
        len) := by
  have stored := registered_short entries
  exact served_of_names (withAlive_all (fun name => name.length ≤ 15) stored alive)
    (withAlive_all PlainName plain alive) isTemp isHum isFlow numbers entrySized atMost bufSized

def mildTray : TrayTexts where
  temp := ⟨ascii "23.0", by decide⟩
  hum := ⟨ascii "58.5", by decide⟩
  flow := ⟨ascii "-0.25", by decide⟩

/-- The two sensors of app_main, of which one is alive. -/
theorem two_sensors_served :
    ServesSensors ((registered [(dht, 10000), (flowSensor, 10000)]).withAlive (fun i => i == 0))
      mildTray (.number 230 (-1)) (.number 585 (-1)) (.number (-25) (-2)) 384
      (sensorGetText ((registered [(dht, 10000), (flowSensor, 10000)]).withAlive (fun i => i == 0))
        mildTray (.ofCells (List.replicate 32 0)) (.ofCells (List.replicate 384 0)) 384) := by
  have plain : ∀ s ∈ (registered [(dht, 10000), (flowSensor, 10000)]).sensors,
      PlainName s.name := by
    unfold PlainName
    decide +kernel
  exact sensors_served [(dht, 10000), (flowSensor, 10000)] (fun i => i == 0) plain mildTray
    ⟨by decide +kernel, by rfl⟩ ⟨by decide +kernel, by rfl⟩ ⟨by decide +kernel, by rfl⟩
    (by decide +kernel) (List.replicate 32 0) (List.replicate 384 0) 384 List.length_replicate
    (le_refl _) (le_of_eq List.length_replicate.symm)

end HydroGovernor
