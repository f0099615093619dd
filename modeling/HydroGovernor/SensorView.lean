import HydroGovernor.FormFields
import HydroGovernor.HealthReports
import HydroGovernor.Library.Delimited
import HydroGovernor.LogPipeline
import HydroGovernor.SensorText

/-! The lines of sensor_view_task: its heartbeat in AP mode finds the alive flags by searching the
text of sensor_get_json. -/

namespace HydroGovernor

open Firmware
open Firmware.Delimited (infix_skip infix_mark prefix_mark)

/-! sensor_view_task -/

def okOrDead (ok : Bool) : Bytes := if ok then ascii "OK" else ascii "DEAD"

/-- The text of `mini`. -/
def heartbeat (dhtOk flowOk : Bool) : Bytes :=
  ascii "[SENSOR] dht:" ++ okOrDead dhtOk ++ ascii " flow:" ++ okOrDead flowOk

/-- The text that one turn passes to enqueue_log, where `result` is what sensor_get_json gave. -/
def sensorView (apMode : Bool) (result : SensorText) : Option Bytes :=
  let buf := (CString.ofBuffer result.buf.cells).bytes
  if apMode then
    if result.ret = .ok then
      let dhtOk := (strstr (ascii "\"dht\":true") buf).isSome
      let flowOk := (strstr (ascii "\"flow\":true") buf).isSome
      some ((heartbeat dhtOk flowOk).take 63)
    else none
  else if result.ret = .ok then some buf
  else none

/-! The search -/

def quoteMark : UInt8 := 0x22
def colonMark : UInt8 := 0x3A

def trueMember (name : Bytes) : Bytes := name ++ quoteMark :: colonMark :: ascii "true"

def memberBytes (label value rest : Bytes) : Bytes :=
  label ++ quoteMark :: colonMark :: (value ++ rest)

/-- A name that no closing mark of another member can begin. -/
structure SearchedName (name : Bytes) : Prop where
  unquoted : quoteMark ∉ name
  notColon : name.head? ≠ some colonMark

theorem trueMember_infix {name label value rest : Bytes} (searched : SearchedName name)
    (labelClean : quoteMark ∉ label) (valueClean : quoteMark ∉ value) :
    quoteMark :: trueMember name <:+: quoteMark :: memberBytes label value rest ↔
      (name = label ∧ ascii "true" <+: value ++ rest) ∨
        quoteMark :: trueMember name <:+: rest := by
  have closing : ¬ trueMember name <+: colonMark :: (value ++ rest) := by
    intro starts
    have colon := searched.notColon
    cases shape : name with
    | nil =>
        rw [trueMember, shape, List.nil_append, List.cons_prefix_cons] at starts
        exact absurd starts.1 (by decide)
    | cons first others =>
        rw [trueMember, shape, List.cons_append, List.cons_prefix_cons] at starts
        rw [shape, List.head?_cons, starts.1] at colon
        exact colon rfl
  have behind : quoteMark ∉ colonMark :: value := by
    rw [List.mem_cons, not_or]
    exact ⟨by decide, valueClean⟩
  have later : quoteMark :: trueMember name <:+: colonMark :: (value ++ rest) ↔
      quoteMark :: trueMember name <:+: rest := by
    rw [← List.cons_append]
    exact infix_skip behind
  have here : trueMember name <+: memberBytes label value rest ↔
      name = label ∧ ascii "true" <+: value ++ rest := by
    rw [trueMember, memberBytes, prefix_mark searched.unquoted labelClean, List.cons_prefix_cons]
    simp only [true_and]
  rw [infix_mark, here, memberBytes, infix_skip labelClean, infix_mark, later]
  exact or_congr_right (or_iff_right closing)

/-- A number text shows neither a mark nor the word `true`. -/
def PlainNumber (text : CString) : Prop := ∀ byte ∈ text.bytes, byte ≠ quoteMark ∧ byte ≠ 0x74

theorem not_true_number {text : CString} (plain : PlainNumber text) (rest : Bytes) :
    ¬ ascii "true" <+: (text.bytes ++ ascii ",") ++ rest := by
  intro starts
  cases shape : text.bytes with
  | nil =>
      rw [shape] at starts
      exact absurd (List.cons_prefix_cons.mp starts).1 (by decide)
  | cons byte others =>
      rw [shape] at starts
      have same := (List.cons_prefix_cons.mp starts).1
      exact (plain byte (by rw [shape]; exact List.mem_cons_self)).2 same.symm

theorem plainNumber_unquoted {text : CString} (plain : PlainNumber text) :
    quoteMark ∉ text.bytes ++ ascii "," := by
  intro member
  rcases List.mem_append.mp member with inside | comma
  · exact (plain _ inside).1 rfl
  · exact absurd comma (by decide)

/-- The search among the entries finds exactly a live sensor of the name. -/
theorem entryTexts_infix {name : Bytes} (searched : SearchedName name)
    {sensors : List SensorMeta} (unquoted : ∀ s ∈ sensors, quoteMark ∉ s.name.bytes)
    (rest : Bytes) :
    quoteMark :: trueMember name <:+: entryTexts sensors ++ rest ↔
      (∃ s ∈ sensors, s.name.bytes = name ∧ s.alive = true) ∨
        quoteMark :: trueMember name <:+: rest := by
  induction sensors with
  | nil => simp [entryTexts]
  | cons s later ih =>
      have others := ih (fun other member => unquoted other (List.mem_cons_of_mem _ member))
      let value : Bytes := (if s.alive then ascii "true" else ascii "false") ++
        if later.isEmpty then [] else ascii ","
      have text : entryTexts (s :: later) ++ rest =
          quoteMark :: memberBytes s.name.bytes value (entryTexts later ++ rest) := by
        simp only [entryTexts, sensorEntry, memberBytes, value, List.append_assoc]
        rfl
      have clean : quoteMark ∉ value := by
        show quoteMark ∉ (if s.alive then ascii "true" else ascii "false") ++
          if later.isEmpty then [] else ascii ","
        cases s.alive <;> cases later.isEmpty <;> decide
      have isTrue : ascii "true" <+: value ++ (entryTexts later ++ rest) ↔ s.alive = true := by
        cases alive : s.alive with
        | true =>
            have shape : value = ascii "true" ++ if later.isEmpty then [] else ascii "," := by
              show (if s.alive then _ else _) ++ _ = _
              rw [alive, if_pos rfl]
            rw [shape, List.append_assoc]
            exact iff_of_true (List.prefix_append _ _) rfl
        | false =>
            have shape : value = ascii "false" ++ if later.isEmpty then [] else ascii "," := by
              show (if s.alive then _ else _) ++ _ = _
              rw [alive, if_neg Bool.false_ne_true]
            rw [shape, List.append_assoc]
            refine iff_of_false (fun starts => ?_) Bool.false_ne_true
            exact absurd (List.cons_prefix_cons.mp starts).1 (by decide)
      rw [text, trueMember_infix searched (unquoted s List.mem_cons_self) clean, isTrue, others,
        List.exists_mem_cons_iff, or_assoc, eq_comm (a := name)]

/-- A tray whose three texts are plain. -/
structure PlainTray (tray : TrayTexts) : Prop where
  temp : PlainNumber tray.temp
  hum : PlainNumber tray.hum
  flow : PlainNumber tray.flow

/-- The members of the tray before the sensors object hide no flag, though one of them has the
name of a sensor. -/
theorem fullText_infix {name : Bytes} (searched : SearchedName name) {registry : Registry}
    (unquoted : ∀ s ∈ registry.sensors, quoteMark ∉ s.name.bytes) {tray : TrayTexts}
    (plain : PlainTray tray) :
    quoteMark :: trueMember name <:+: fullText registry tray ↔
      ∃ s ∈ registry.sensors, s.name.bytes = name ∧ s.alive = true := by
  have text : fullText registry tray =
      ascii "\x7b" ++ quoteMark :: memberBytes (ascii "temp") (tray.temp.bytes ++ ascii ",")
        (quoteMark :: memberBytes (ascii "hum") (tray.hum.bytes ++ ascii ",")
          (quoteMark :: memberBytes (ascii "flow") (tray.flow.bytes ++ ascii ",")
            (quoteMark :: memberBytes (ascii "sensors") (ascii "\x7b")
              (entryTexts registry.sensors ++ ascii "\x7d\x7d")))) := by
    simp only [fullText, trayText, sensorsText, memberBytes, List.append_assoc]
    rfl
  have braces : quoteMark ∉ ascii "\x7b" ∧ quoteMark ∉ ascii "\x7d\x7d" := by decide
  have labels : quoteMark ∉ ascii "temp" ∧ quoteMark ∉ ascii "hum" ∧ quoteMark ∉ ascii "flow" ∧
      quoteMark ∉ ascii "sensors" := by decide
  have object (rest : Bytes) : ¬ ascii "true" <+: ascii "\x7b" ++ rest := fun starts =>
    absurd (List.cons_prefix_cons.mp starts).1 (by decide)
  have ending : ¬ quoteMark :: trueMember name <:+: ascii "\x7d\x7d" := by
    intro inside
    exact braces.2 (inside.subset List.mem_cons_self)
  rw [text, infix_skip braces.1,
    trueMember_infix searched labels.1 (plainNumber_unquoted plain.temp),
    trueMember_infix searched labels.2.1 (plainNumber_unquoted plain.hum),
    trueMember_infix searched labels.2.2.1 (plainNumber_unquoted plain.flow),
    trueMember_infix searched labels.2.2.2 braces.1, entryTexts_infix searched unquoted]
  simp only [not_true_number plain.temp, not_true_number plain.hum, not_true_number plain.flow,
    object, ending, and_false, false_or, or_false]

theorem strstr_isSome_iff (needle body : Bytes) :
    (strstr needle body).isSome = true ↔ needle <:+: body := by
  cases found : strstr needle body with
  | none => exact iff_of_false (by simp) (strstr_none found)
  | some p =>
      obtain ⟨front, whole, ⟨rest, starts⟩, -⟩ := strstr_some found
      refine iff_of_true rfl ⟨front, rest, ?_⟩
      rw [whole, ← starts, List.append_assoc]

/-! The lines -/

/-- The flag of a sensor as the heartbeat should show it. -/
def Registry.anyAlive (registry : Registry) (name : CString) : Bool :=
  registry.flags.any (fun flag => flag.1 = name && flag.2)

theorem anyAlive_iff {registry : Registry} {name : CString} :
    registry.anyAlive name = true ↔
      ∃ s ∈ registry.sensors, s.name.bytes = name.bytes ∧ s.alive = true := by
  simp only [Registry.anyAlive, Registry.flags, List.any_map, List.any_eq_true,
    Function.comp_apply, Bool.and_eq_true, decide_eq_true_eq]
  constructor
  · rintro ⟨s, member, named, alive⟩
    exact ⟨s, member, by rw [named], alive⟩
  · rintro ⟨s, member, named, alive⟩
    exact ⟨s, member, CString.ext named, alive⟩

theorem strstr_flag {name : CString} (searched : SearchedName name.bytes) {registry : Registry}
    (unquoted : ∀ s ∈ registry.sensors, quoteMark ∉ s.name.bytes) {tray : TrayTexts}
    (plain : PlainTray tray) {needle : Bytes}
    (spelt : needle = quoteMark :: trueMember name.bytes) :
    (strstr needle (fullText registry tray)).isSome = registry.anyAlive name := by
  rw [Bool.eq_iff_iff, strstr_isSome_iff, spelt, fullText_infix searched unquoted plain,
    anyAlive_iff]

/-! Every turn -/

/-- A step leaves the registry alone, marks a sensor or is a health pass. -/
theorem registry_step {system next : PushSystem} {action : PushAction}
    (taken : pushStep system action = some next) :
    next.registry = system.registry ∨
      (∃ name t, next.registry = system.registry.mark name t) ∨
        ∃ t, next.registry = system.registry.checkHealth t := by
  have notified (system : PushSystem) : system.notify.registry = system.registry := by
    unfold PushSystem.notify
    split <;> rfl
  cases action with
  | createPush =>
      simp only [pushStep] at taken
      split at taken <;> cases taken
      exact .inl rfl
  | dhtRead t h =>
      simp only [pushStep] at taken
      split at taken <;> cases taken
      exact .inl rfl
  | dht now =>
      simp only [pushStep, dhtStep] at taken
      split at taken <;> cases taken
      · exact .inr (.inl ⟨dht, now, rfl⟩)
      · exact .inl rfl
      · exact .inr (.inl ⟨dht, now, rfl⟩)
      · exact .inl (notified system)
  | flowRead count =>
      simp only [pushStep] at taken
      split at taken <;> cases taken
      exact .inl rfl
  | flow now =>
      simp only [pushStep, flowStep] at taken
      split at taken <;> cases taken
      · exact .inl rfl
      · exact .inr (.inl ⟨flowSensor, now, rfl⟩)
      · exact .inl (notified system)
  | health now =>
      cases taken
      rw [healthPieceStep]
      split
      · exact .inr (.inr ⟨now, rfl⟩)
      · split
        · exact .inl (notified system)
        · exact .inl rfl
  | push fits =>
      simp only [pushStep, pushPieceStep] at taken
      split at taken
      · split at taken <;> cases taken
        exact .inl rfl
      · split at taken <;> cases taken
        · exact .inl rfl
        · exact .inl rfl
      · cases taken
        exact .inl rfl

theorem names_of_history {entries : List (CString × UInt32)}
    {trace : List (PushSystem × PushAction)} {system : PushSystem}
    (run : PushHistory entries trace system) :
    system.registry.sensors.map SensorMeta.name =
      (registered entries).sensors.map SensorMeta.name := by
  refine run.invariant_state (fun system => system.registry.sensors.map SensorMeta.name =
    (registered entries).sensors.map SensorMeta.name) rfl ?_
  intro state action next same taken
  rw [← same]
  rcases registry_step taken with kept | ⟨name, t, marked⟩ | ⟨t, checked⟩
  · rw [kept]
  · rw [marked, ← Registry.flags_names, mark_flags, Registry.flags_names]
  · rw [checked, checkHealth_names]

theorem names_all (property : CString → Prop) {entries : List (CString × UInt32)}
    {trace : List (PushSystem × PushAction)} {system : PushSystem}
    (run : PushHistory entries trace system)
    (holds : ∀ s ∈ (registered entries).sensors, property s.name) :
    ∀ s ∈ system.registry.sensors, property s.name := by
  intro s member
  have named : s.name ∈ system.registry.sensors.map SensorMeta.name := List.mem_map_of_mem member
  rw [names_of_history run] at named
  obtain ⟨first, stored, same⟩ := List.mem_map.mp named
  rw [← same]
  exact holds first stored

/-- Either line of a turn tells the flags as they are, and the log queue cuts neither for the two
sensors of app_main. -/
structure ViewLines (entries : List (CString × UInt32)) (registry : Registry) (tray : TrayTexts)
    (served : Reading → Json) (line : Bool → Option Bytes) : Prop where
  heartbeat : line true = some (heartbeat (registry.anyAlive dht) (registry.anyAlive flowSensor))
  json : line false = some (fullText registry tray)
  parses : ∀ reading : Reading,
    Json.read (reading.text (fullText registry tray)) = some (served reading)
  uncut : entries = twoSensors →
    ∀ apMode, ∀ text ∈ line apMode, text.length < logMsgLen

theorem heartbeat_length (dhtOk flowOk : Bool) : (heartbeat dhtOk flowOk).length ≤ 27 := by
  cases dhtOk <;> cases flowOk <;> decide

theorem fullText_two {registry : Registry} {tray : TrayTexts}
    (names : registry.sensors.map SensorMeta.name = [dht, flowSensor])
    (numbers : tray.temp.length + tray.hum.length + tray.flow.length ≤ 40) :
    (fullText registry tray).length < logMsgLen := by
  have flag (alive : Bool) : (if alive then ascii "true" else ascii "false").length ≤ 5 := by
    cases alive <;> decide
  obtain ⟨first, rest, sensors, named, others⟩ := List.map_eq_cons_iff.mp names
  obtain ⟨second, none, sensors', named', others'⟩ := List.map_eq_cons_iff.mp others
  rw [List.map_eq_nil_iff] at others'
  have firstFlag := flag first.alive
  have secondFlag := flag second.alive
  have literals : (ascii "\x7b\"temp\":").length = 8 ∧ (ascii ",\"hum\":").length = 7 ∧
      (ascii ",\"flow\":").length = 8 ∧ (ascii ",\"sensors\":").length = 11 ∧
        (ascii "\x7b").length = 1 ∧ (ascii "\x7d").length = 1 ∧ (ascii "\"").length = 1 ∧
          (ascii "\":").length = 2 ∧ (ascii ",").length = 1 ∧ dht.bytes.length = 3 ∧
            flowSensor.bytes.length = 4 := by decide
  obtain ⟨temp, hum, flow, object, opening, closing, quote, colon, comma, dhtLength,
    flowLength⟩ := literals
  simp only [CString.length] at numbers
  rw [fullText, trayText, sensors, sensors', others', logMsgLen]
  simp only [sensorsText, entryTexts, sensorEntry, List.isEmpty_cons, List.isEmpty_nil,
    Bool.false_eq_true, if_false, if_true, named, named', List.length_append, List.length_nil,
    temp, hum, flow, object, opening, closing, quote, colon, comma, dhtLength, flowLength]
  omega

/-- Whatever the sensors have done so far, sensor_view_task logs their flags in AP mode and the
whole object in STA mode. -/
theorem view_lines (entries : List (CString × UInt32)) (trace : List (PushSystem × PushAction))
    (system : PushSystem) (run : PushHistory entries trace system)
    (named : ∀ s ∈ (registered entries).sensors, PlainName s.name) {tray : TrayTexts}
    {temp hum flow : Json} (isTemp : NumberText tray.temp temp) (isHum : NumberText tray.hum hum)
    (isFlow : NumberText tray.flow flow) (plain : PlainTray tray)
    (numbers : tray.temp.length + tray.hum.length + tray.flow.length ≤ 40) (entry buf : Bytes)
    (entrySized : entry.length = entrySize) (bufSized : buf.length = wsJsonBufSize) :
    ViewLines entries system.registry tray
      (fun reading => reading.served system.registry temp hum flow)
      (fun apMode => sensorView apMode
        (sensorGetText system.registry tray (.ofCells entry) (.ofCells buf) wsJsonBufSize)) := by
  have short : ∀ s ∈ system.registry.sensors, s.name.length ≤ 15 :=
    names_all (fun name => name.length ≤ 15) run (registered_short entries)
  have names : ∀ s ∈ system.registry.sensors, PlainName s.name := names_all PlainName run named
  have unquoted : ∀ s ∈ system.registry.sensors, quoteMark ∉ s.name.bytes :=
    fun s member inside => (names s member quoteMark inside).2.1 rfl
  have serves := served_of_names short names isTemp isHum isFlow numbers entrySized
    (Nat.le_refl wsJsonBufSize) (Nat.le_of_eq bufSized.symm)
  have ok := serves.fits rfl
  have text := serves.text ok
  have dhtFlag : (strstr (ascii "\"dht\":true") (fullText system.registry tray)).isSome =
      system.registry.anyAlive dht :=
    strstr_flag ⟨by decide, by decide⟩ unquoted plain (by decide)
  have flowFlag : (strstr (ascii "\"flow\":true") (fullText system.registry tray)).isSome =
      system.registry.anyAlive flowSensor :=
    strstr_flag ⟨by decide, by decide⟩ unquoted plain (by decide)
  have beat := heartbeat_length (system.registry.anyAlive dht)
    (system.registry.anyAlive flowSensor)
  have apLine : sensorView true
      (sensorGetText system.registry tray (.ofCells entry) (.ofCells buf) wsJsonBufSize) =
        some (heartbeat (system.registry.anyAlive dht) (system.registry.anyAlive flowSensor)) := by
    rw [sensorView, if_pos rfl, if_pos ok, text, dhtFlag, flowFlag]
    exact congrArg some (List.take_of_length_le (by omega))
  have staLine : sensorView false
      (sensorGetText system.registry tray (.ofCells entry) (.ofCells buf) wsJsonBufSize) =
        some (fullText system.registry tray) := by
    rw [sensorView, if_neg Bool.false_ne_true, if_pos ok, text]
  refine ⟨apLine, staLine, serves.parses, ?_⟩
  rintro rfl apMode text given
  cases apMode with
  | true =>
      rw [apLine, Option.mem_some_iff] at given
      rw [← given, logMsgLen]
      omega
  | false =>
      rw [staLine, Option.mem_some_iff] at given
      rw [← given]
      exact fullText_two (names_of_history run) numbers

def dhtSeen : List PushAction := [.dhtRead 23 58, .dht 2000, .health 2100]

theorem dht_seen_lines :
    ∃ system : PushSystem, ViewLines twoSensors system.registry mildTray
      (fun reading => reading.served system.registry (.number 230 (-1)) (.number 585 (-1))
        (.number (-25) (-2)))
      (fun apMode => sensorView apMode (sensorGetText system.registry mildTray
        (.ofCells (List.replicate 32 0)) (.ofCells (List.replicate 384 0)) 384)) ∧
      heartbeat (system.registry.anyAlive dht) (system.registry.anyAlive flowSensor) =
        ascii "[SENSOR] dht:OK flow:DEAD" := by
  obtain ⟨system, run, beat⟩ := Transition.exists_run_of_exec dhtSeen
    (fun (system : PushSystem) => decide (heartbeat (system.registry.anyAlive dht)
      (system.registry.anyAlive flowSensor) = ascii "[SENSOR] dht:OK flow:DEAD"))
    (show (Transition.exec pushStep (PushSystem.boot twoSensors) dhtSeen).any _ = true by
      decide +kernel)
  have plain : ∀ s ∈ (registered twoSensors).sensors, PlainName s.name := by
    unfold PlainName
    decide +kernel
  have numbers : PlainTray mildTray :=
    ⟨by unfold PlainNumber; decide +kernel, by unfold PlainNumber; decide +kernel,
      by unfold PlainNumber; decide +kernel⟩
  exact ⟨system, view_lines twoSensors _ system run plain ⟨by decide +kernel, by rfl⟩
    ⟨by decide +kernel, by rfl⟩ ⟨by decide +kernel, by rfl⟩ numbers (by decide +kernel)
    (List.replicate 32 0) (List.replicate 384 0) List.length_replicate List.length_replicate,
    of_decide_eq_true beat⟩

end HydroGovernor
