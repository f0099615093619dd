import HydroGovernor.Library.Transition
import HydroGovernor.Sensors

/-! The producers, the health engine and push_task around one notification count. Each mutex
section is one step, and the stamps that sensor_mark_alive and the health pass read are
arbitrary. -/

namespace HydroGovernor

open Firmware

/-! sensor_get_json -/

/-- `sensor_tray_t`. DHT11 values are whole numbers, and the flow stands for its pulse count,
from which flow_task computes it. -/
structure Tray where
  temp : Int
  hum : Int
  flow : UInt32
  deriving DecidableEq, Repr

/-- What the text of sensor_get_json shows: the tray, and the entries of its sensors object. -/
structure SensorJson where
  tray : Tray
  sensors : List (CString × Bool)
  deriving DecidableEq, Repr

def sensorEntry (s : SensorMeta) (isLast : Bool) : Bytes :=
  ascii "\"" ++ s.name.bytes ++ ascii "\":" ++ (if s.alive then ascii "true" else ascii "false") ++
    if isLast then [] else ascii ","

def sensorTextSize : Nat := 256

/-- The loop of sensor_get_json, which copies the entries that leave room for the end. -/
def sensorEntries : List SensorMeta → Nat → List (CString × Bool)
  | [], _ => []
  | s :: rest, spLen =>
      let wrote := (sensorEntry s rest.isEmpty).length
      if spLen + wrote < sensorTextSize - 2 then
        (s.name, s.alive) :: sensorEntries rest (spLen + wrote)
      else sensorEntries rest spLen

def sensorGetJson (registry : Registry) (tray : Tray) : SensorJson :=
  ⟨tray, sensorEntries registry.sensors 1⟩

def Registry.flags (registry : Registry) : List (CString × Bool) :=
  registry.sensors.map (fun s => (s.name, s.alive))

theorem sensorEntry_length_le {s : SensorMeta} (short : s.name.length ≤ 15) (isLast : Bool) :
    (sensorEntry s isLast).length ≤ 24 := by
  have literals : (ascii "\"").length = 1 ∧ (ascii "\":").length = 2 := ⟨rfl, rfl⟩
  have flag : (if s.alive then ascii "true" else ascii "false").length ≤ 5 := by
    split <;> decide
  have comma : (if isLast then [] else ascii "," : Bytes).length ≤ 1 := by
    cases isLast <;> decide
  simp only [CString.length] at short
  simp only [sensorEntry, List.length_append, literals.1, literals.2]
  omega

theorem sensorEntries_all {sensors : List SensorMeta} {spLen : Nat}
    (short : ∀ s ∈ sensors, s.name.length ≤ 15) (room : spLen + 24 * sensors.length ≤ 241) :
    sensorEntries sensors spLen = sensors.map (fun s => (s.name, s.alive)) := by
  induction sensors generalizing spLen with
  | nil => rfl
  | cons s rest ih =>
      have wrote := sensorEntry_length_le (short s (List.mem_cons_self ..)) rest.isEmpty
      rw [List.length_cons] at room
      have copied : spLen + (sensorEntry s rest.isEmpty).length < sensorTextSize - 2 := by
        simp only [sensorTextSize]
        omega
      rw [sensorEntries, if_pos copied, List.map_cons,
        ih (fun s member => short s (List.mem_cons_of_mem _ member)) (by omega)]

theorem sensorGetJson_all {registry : Registry} (tray : Tray)
    (short : ∀ flag ∈ registry.flags, flag.1.length ≤ 15) :
    sensorGetJson registry tray = ⟨tray, registry.flags⟩ := by
  have fits := registry.fits
  have ten : maxSensors = 10 := rfl
  have names : ∀ s ∈ registry.sensors, s.name.length ≤ 15 :=
    fun s member => short (s.name, s.alive) (List.mem_map_of_mem member)
  rw [sensorGetJson, sensorEntries_all names (by omega)]
  rfl

/-! The flags under marks and passes -/

/-- Every sensor that the flags have alive is shown alive. -/
def ShowsAlive (shown flags : List (CString × Bool)) : Prop :=
  ∀ (index : Nat) (name : CString),
    flags[index]? = some (name, true) → shown[index]? = some (name, true)

theorem ShowsAlive.refl (flags : List (CString × Bool)) : ShowsAlive flags flags :=
  fun _ _ is => is

theorem ShowsAlive.trans {shown middle flags : List (CString × Bool)}
    (first : ShowsAlive shown middle) (second : ShowsAlive middle flags) :
    ShowsAlive shown flags :=
  fun index name is => first index name (second index name is)

theorem mark_flags (registry : Registry) (name : CString) (t : UInt32) :
    (registry.mark name t).flags = registry.flags := by
  have marked : ∀ sensors : List SensorMeta,
      (markFirst name t sensors).map (fun s => (s.name, s.alive)) =
        sensors.map (fun s => (s.name, s.alive)) := by
    intro sensors
    induction sensors with
    | nil => rfl
    | cons s rest ih =>
        unfold markFirst
        split
        · rfl
        · rw [List.map_cons, ih, List.map_cons]
  exact marked registry.sensors

theorem SensorMeta.event_recovered {s : SensorMeta} (alive : s.alive = true)
    (was : s.prevAlive = false) : s.event = some ⟨false, true, s.name.take 15⟩ := by
  simp [SensorMeta.event, alive, was]

theorem checkHealth_short {registry : Registry} {t : UInt32}
    (short : ∀ flag ∈ registry.flags, flag.1.length ≤ 15) :
    ∀ flag ∈ (registry.checkHealth t).flags, flag.1.length ≤ 15 := by
  intro flag member
  rw [Registry.flags, Registry.checkHealth_sensors, List.map_map] at member
  obtain ⟨s, stored, rfl⟩ := List.mem_map.mp member
  exact short (s.name, s.alive) (List.mem_map_of_mem stored)

theorem checkHealth_flags {registry : Registry} {t : UInt32}
    (unrecovered : ∀ event ∈ registry.healthEvents t, event.dead = true) :
    ShowsAlive registry.flags (registry.checkHealth t).flags := by
  intro index name is
  rw [Registry.flags, Registry.checkHealth_sensors, List.map_map, List.getElem?_map] at is
  obtain ⟨s, stored, is⟩ := Option.map_eq_some_iff.mp is
  simp only [Function.comp_apply, Prod.mk.injEq] at is
  obtain ⟨named, alive⟩ := is
  rw [Registry.flags, List.getElem?_map, stored, Option.map_some]
  cases was : s.alive with
  | true => exact congrArg (fun name => some (name, true)) named
  | false =>
      have before : (s.check t).prevAlive = false := was
      have recovered := SensorMeta.event_recovered alive before
      have reported : (⟨false, true, (s.check t).name.take 15⟩ : HealthEvent) ∈
          registry.healthEvents t := by
        rw [Registry.healthEvents_eq, Registry.checkHealth_sensors, List.filterMap_map]
        exact List.mem_filterMap.mpr ⟨s, List.mem_of_getElem? stored, recovered⟩
      cases unrecovered _ reported

/-! The tasks -/

/-- Where dht_task is, with the `t` and `h` of its iteration. -/
inductive DhtPc where
  | idle
  | read (t h : UInt8)
  | tray (t h : UInt8)
  | mark (t h : UInt8)
  | notify (t h : UInt8)
  deriving DecidableEq, Repr

inductive FlowPc where
  | idle
  | tray (count : UInt32)
  | mark
  | notify
  deriving DecidableEq, Repr

inductive HealthPc where
  | idle
  | report (events : List HealthEvent)
  deriving DecidableEq, Repr

inductive PushPc where
  | blocked
  | building
  | sending
  deriving DecidableEq, Repr

/-- `notified` is the notification count of push_task, `lastT` and `lastH` are the locals of
dht_task. `given` says that a notification has been given, and `built` is the last JSON of
push_task. -/
structure PushSystem where
  registry : Registry
  tray : Tray
  handle : Bool
  notified : Nat
  given : Bool
  dht : DhtPc
  lastT : Int
  lastH : Int
  flow : FlowPc
  health : HealthPc
  push : PushPc
  built : Option SensorJson
  deriving DecidableEq, Repr

def PushSystem.boot (entries : List (CString × UInt32)) : PushSystem where
  registry := registered entries
  tray := ⟨0, 0, 0⟩
  handle := false
  notified := 0
  given := false
  dht := .idle
  lastT := -999
  lastH := -999
  flow := .idle
  health := .idle
  push := .blocked
  built := none

/-- `if (push_task_handle) xTaskNotifyGive(push_task_handle);` -/
def PushSystem.notify (system : PushSystem) : PushSystem :=
  if system.handle then { system with notified := system.notified + 1, given := true }
  else system

def flowSensor : CString := CString.ofBuffer (ascii "flow")

def dhtValue (byte : UInt8) : Int := byte.toNat

/-- `dhtRead` and `flowRead` end the wait of a producer; `now` is what the next piece reads as
now_ms, if it reads it, and `fits` the result of sensor_get_json. -/
inductive PushAction where
  | createPush
  | dhtRead (t h : UInt8)
  | dht (now : UInt32)
  | flowRead (count : UInt32)
  | flow (now : UInt32)
  | health (now : UInt32)
  | push (fits : Bool)
  deriving DecidableEq, Repr

/-- The next piece of dht_task after a good read. -/
def dhtStep (system : PushSystem) (now : UInt32) : Option PushSystem :=
  match system.dht with
  | .idle => none
  | .read t h =>
      some { system with
        registry := system.registry.mark dht now
        dht := if dhtValue t ≠ system.lastT ∨ dhtValue h ≠ system.lastH then .tray t h else .idle }
  | .tray t h =>
      some { system with
        tray := { system.tray with temp := dhtValue t, hum := dhtValue h }
        dht := .mark t h }
  | .mark t h =>
      some { system with registry := system.registry.mark dht now, dht := .notify t h }
  | .notify t h =>
      some { system.notify with lastT := dhtValue t, lastH := dhtValue h, dht := .idle }

def flowStep (system : PushSystem) (now : UInt32) : Option PushSystem :=
  match system.flow with
  | .idle => none
  | .tray count =>
      some { system with tray := { system.tray with flow := count }, flow := .mark }
  | .mark =>
      some { system with registry := system.registry.mark flowSensor now, flow := .notify }
  | .notify => some { system.notify with flow := .idle }

/-- sensor_update_health: the pass under the mutex, then its reports. -/
def healthPieceStep (system : PushSystem) (now : UInt32) : PushSystem :=
  match system.health with
  | .idle =>
      { system with
        registry := system.registry.checkHealth now
        health := .report (system.registry.healthEvents now) }
  | .report events =>
      if events.any (fun event => !event.dead) then { system.notify with health := .idle }
      else { system with health := .idle }

def pushPieceStep (system : PushSystem) (fits : Bool) : Option PushSystem :=
  match system.push with
  | .blocked =>
      -- ulTaskNotifyTake(pdTRUE) returns once the count is positive, and clears it
      if system.handle ∧ 0 < system.notified then
        some { system with notified := 0, push := .building }
      else none
  | .building =>
      if fits then
        some { system with
          built := some (sensorGetJson system.registry system.tray), push := .sending }
      else some { system with push := .sending }
  | .sending => some { system with push := .blocked }

def pushStep (system : PushSystem) : PushAction → Option PushSystem
  | .createPush => if system.handle then none else some { system with handle := true }
  | .dhtRead t h =>
      if system.dht = .idle then some { system with dht := .read t h } else none
  | .dht now => dhtStep system now
  | .flowRead count =>
      if system.flow = .idle then some { system with flow := .tray count } else none
  | .flow now => flowStep system now
  | .health now => some (healthPieceStep system now)
  | .push fits => pushPieceStep system fits

abbrev PushHistory (entries : List (CString × UInt32)) (trace : List (PushSystem × PushAction))
    (system : PushSystem) : Prop :=
  Transition.Run pushStep (PushSystem.boot entries) trace system

/-- Between a change of the sensor state and its xTaskNotifyGive. -/
def DhtPc.inFlight : DhtPc → Bool
  | .tray _ _ => true
  | .mark _ _ => true
  | .notify _ _ => true
  | _ => false

def FlowPc.inFlight : FlowPc → Bool
  | .mark => true
  | .notify => true
  | _ => false

def HealthPc.inFlight : HealthPc → Bool
  | .idle => false
  | .report events => events.any (fun event => !event.dead)

/-- push_task waits on a count of 0 and no other task has a notification to give. -/
structure Settled (system : PushSystem) : Prop where
  handle : system.handle = true
  given : system.given = true
  blocked : system.push = .blocked
  unnotified : system.notified = 0
  dht : system.dht.inFlight = false
  flow : system.flow.inFlight = false
  health : system.health.inFlight = false

/-! The reads of a run -/

def returnedRead : PushAction → Option (UInt8 × UInt8)
  | .dhtRead t h => some (t, h)
  | _ => none

/-- The good read that dht_task compares with its last one. -/
def comparedRead (system : PushSystem) : PushAction → Option (UInt8 × UInt8)
  | .dht _ =>
      match system.dht with
      | .read t h => some (t, h)
      | _ => none
  | _ => none

def dhtReads (trace : List (PushSystem × PushAction)) : List (UInt8 × UInt8) :=
  trace.filterMap (fun taken => returnedRead taken.2)

def comparedReads (trace : List (PushSystem × PushAction)) : List (UInt8 × UInt8) :=
  trace.filterMap (fun taken => comparedRead taken.1 taken.2)

def Tray.Has (tray : Tray) (read : UInt8 × UInt8) : Prop :=
  tray.temp = dhtValue read.1 ∧ tray.hum = dhtValue read.2

/-- The tray has the last read that dht_task has compared, and that is the last one of
dht11_read unless dht_task is still on its way to the comparison. -/
structure Reported (trace : List (PushSystem × PushAction)) (pc : DhtPc) (tray : Tray) :
    Prop where
  compared : ∀ read, (comparedReads trace).getLast? = some read → tray.Has read
  returned : pc = .idle → ∀ read, (dhtReads trace).getLast? = some read → tray.Has read

/-- The JSON was built from the tray, with the last DHT read, and shows every live sensor
alive. -/
structure Current (trace : List (PushSystem × PushAction)) (system : PushSystem)
    (json : SensorJson) : Prop where
  tray : json.tray = system.tray
  read : Reported trace system.dht json.tray
  alive : ∀ s ∈ system.registry.sensors, s.alive = true → (s.name, true) ∈ json.sensors

/-- The last JSON shows the tray and the flags as they are. -/
def PushSystem.Shown (system : PushSystem) : Prop :=
  ∃ json, system.built = some json ∧ json.tray = system.tray ∧
    ShowsAlive json.sensors system.registry.flags

/-- push_task is about to build, or will be made to. -/
def PushSystem.Owed (system : PushSystem) : Prop :=
  0 < system.notified ∨ system.push = .building ∨ system.dht.inFlight = true ∨
    system.flow.inFlight = true ∨ system.health.inFlight = true

/-- The part of the state that only dht_task writes. -/
structure DhtWork where
  pc : DhtPc
  lastT : Int
  lastH : Int
  temp : Int
  hum : Int

def PushSystem.dhtWork (system : PushSystem) : DhtWork :=
  ⟨system.dht, system.lastT, system.lastH, system.tray.temp, system.tray.hum⟩

def DhtWork.Recorded (work : DhtWork) (read : UInt8 × UInt8) : Prop :=
  work.temp = dhtValue read.1 ∧ work.hum = dhtValue read.2

/-- Between reads the `last` one is in the tray, and the `last_t` and `last_h` of dht_task are the
tray's values, or no reading has been stored. -/
structure DhtWork.Compared (work : DhtWork) (last : Option (UInt8 × UInt8)) : Prop where
  passed : work.lastT = -999 ∨ (work.lastT = work.temp ∧ work.lastH = work.hum)
  recorded : ∀ read, last = some read → work.Recorded read

/-- What dht_task has done so far with the `last` read it compared. -/
def DhtWork.Stage (work : DhtWork) (last : Option (UInt8 × UInt8)) : Prop :=
  match work.pc with
  | .idle => work.Compared last
  | .read _ _ => work.Compared last
  | .tray t h => last = some (t, h)
  | .mark t h => last = some (t, h) ∧ work.Recorded (t, h)
  | .notify t h => last = some (t, h) ∧ work.Recorded (t, h)

/-- The read that dht_task has yet to compare. -/
def DhtPc.uncompared : DhtPc → List (UInt8 × UInt8)
  | .read t h => [(t, h)]
  | _ => []

structure PushInv (system : PushSystem) : Prop where
  short : ∀ flag ∈ system.registry.flags, flag.1.length ≤ 15
  handled : system.given = true → system.handle = true
  shown : system.given = true → system.Shown ∨ system.Owed

theorem pushInv_boot (entries : List (CString × UInt32)) : PushInv (PushSystem.boot entries) where
  short flag member := by
    obtain ⟨s, stored, rfl⟩ := List.mem_map.mp member
    exact registered_short entries s stored
  handled := nofun
  shown := nofun

section

variable {system : PushSystem}

theorem PushSystem.owed_notified (notified : 0 < system.notified) : system.Owed := Or.inl notified

theorem PushSystem.owed_building (building : system.push = .building) : system.Owed :=
  Or.inr (Or.inl building)

theorem PushSystem.owed_dht (flying : system.dht.inFlight = true) : system.Owed :=
  Or.inr (Or.inr (Or.inl flying))

theorem PushSystem.owed_flow (flying : system.flow.inFlight = true) : system.Owed :=
  Or.inr (Or.inr (Or.inr (Or.inl flying)))

theorem PushSystem.owed_health (flying : system.health.inFlight = true) : system.Owed :=
  Or.inr (Or.inr (Or.inr (Or.inr flying)))

theorem PushSystem.Owed.mono {next : PushSystem} (owed : system.Owed)
    (notified : next.notified = system.notified)
    (push : system.push = .building → next.push = .building)
    (dht : system.dht.inFlight = true → next.dht.inFlight = true)
    (flow : system.flow.inFlight = true → next.flow.inFlight = true)
    (health : system.health.inFlight = true → next.health.inFlight = true) : next.Owed := by
  rcases owed with count | building | dhtOwes | flowOwes | healthOwes
  · rw [← notified] at count
    exact PushSystem.owed_notified count
  · exact PushSystem.owed_building (push building)
  · exact PushSystem.owed_dht (dht dhtOwes)
  · exact PushSystem.owed_flow (flow flowOwes)
  · exact PushSystem.owed_health (health healthOwes)

theorem notify_notified (inv : PushInv system) (given : system.notify.given = true) :
    0 < system.notify.notified := by
  unfold PushSystem.notify at given ⊢
  split at given
  · rename_i handle
    rw [if_pos handle]
    exact Nat.succ_pos _
  · rename_i unset
    exact absurd (inv.handled given) unset

theorem PushInv.notify (inv : PushInv system) : PushInv system.notify := by
  unfold PushSystem.notify
  split
  · rename_i handle
    exact ⟨inv.short, fun _ => handle, fun _ => Or.inr (PushSystem.owed_notified (Nat.succ_pos _))⟩
  · exact inv

end

theorem pushInv_read {system : PushSystem} {now : UInt32} {t h : UInt8} (inv : PushInv system)
    (pc : system.dht = .read t h) :
    PushInv { system with
      registry := system.registry.mark dht now
      dht := if dhtValue t ≠ system.lastT ∨ dhtValue h ≠ system.lastH then .tray t h
        else .idle } where
  short := by
    rw [mark_flags]
    exact inv.short
  handled := inv.handled
  shown given := by
    rcases inv.shown given with ⟨json, built, tray, alive⟩ | owed
    · exact Or.inl ⟨json, built, tray, by rw [mark_flags]; exact alive⟩
    · refine Or.inr (owed.mono rfl id (fun reading => ?_) id id)
      rw [pc] at reading
      cases reading

theorem pushInv_dht {system next : PushSystem} {now : UInt32} (inv : PushInv system)
    (taken : dhtStep system now = some next) : PushInv next := by
  unfold dhtStep at taken
  cases pc : system.dht with
  | idle => simp [pc] at taken
  | read t h =>
      simp only [pc] at taken
      cases taken
      exact pushInv_read inv pc
  | tray t h =>
      simp only [pc] at taken
      cases taken
      exact ⟨inv.short, inv.handled, fun _ => Or.inr (PushSystem.owed_dht rfl)⟩
  | mark t h =>
      simp only [pc] at taken
      cases taken
      exact ⟨by rw [mark_flags]; exact inv.short, inv.handled,
        fun _ => Or.inr (PushSystem.owed_dht rfl)⟩
  | notify t h =>
      simp only [pc] at taken
      cases taken
      exact ⟨inv.notify.short, inv.notify.handled,
        fun given => Or.inr (PushSystem.owed_notified (notify_notified inv given))⟩

theorem pushInv_flow {system next : PushSystem} {now : UInt32} (inv : PushInv system)
    (taken : flowStep system now = some next) : PushInv next := by
  unfold flowStep at taken
  cases pc : system.flow with
  | idle => simp [pc] at taken
  | tray count =>
      simp only [pc] at taken
      cases taken
      exact ⟨inv.short, inv.handled, fun _ => Or.inr (PushSystem.owed_flow rfl)⟩
  | mark =>
      simp only [pc] at taken
      cases taken
      exact ⟨by rw [mark_flags]; exact inv.short, inv.handled,
        fun _ => Or.inr (PushSystem.owed_flow rfl)⟩
  | notify =>
      simp only [pc] at taken
      cases taken
      exact ⟨inv.notify.short, inv.notify.handled,
        fun given => Or.inr (PushSystem.owed_notified (notify_notified inv given))⟩

theorem pushInv_health {system : PushSystem} (now : UInt32) (inv : PushInv system) :
    PushInv (healthPieceStep system now) := by
  unfold healthPieceStep
  cases pc : system.health with
  | idle =>
      simp only
      refine ⟨checkHealth_short inv.short, inv.handled, fun given => ?_⟩
      by_cases recovered : (system.registry.healthEvents now).any (fun event => !event.dead) = true
      · exact Or.inr (PushSystem.owed_health recovered)
      · have unrecovered : ∀ event ∈ system.registry.healthEvents now, event.dead = true := by
          intro event member
          by_contra alive
          exact recovered (List.any_eq_true.mpr ⟨event, member, by simpa using alive⟩)
        rcases inv.shown given with ⟨json, built, tray, alive⟩ | owed
        · exact Or.inl ⟨json, built, tray, alive.trans (checkHealth_flags unrecovered)⟩
        · refine Or.inr (owed.mono rfl id id id (fun idle => ?_))
          rw [pc] at idle
          cases idle
  | report events =>
      simp only
      split
      · exact ⟨inv.notify.short, inv.notify.handled,
          fun given => Or.inr (PushSystem.owed_notified (notify_notified inv given))⟩
      · rename_i unrecovered
        refine ⟨inv.short, inv.handled, fun given => ?_⟩
        rcases inv.shown given with shown | owed
        · exact Or.inl shown
        · refine Or.inr (owed.mono rfl id id id (fun recovered => ?_))
          rw [pc] at recovered
          exact absurd recovered unrecovered

theorem pushInv_push {system next : PushSystem} (inv : PushInv system)
    (taken : pushPieceStep system true = some next) : PushInv next := by
  unfold pushPieceStep at taken
  cases pc : system.push with
  | blocked =>
      simp only [pc] at taken
      split at taken <;> cases taken
      exact ⟨inv.short, inv.handled, fun _ => Or.inr (PushSystem.owed_building rfl)⟩
  | building =>
      simp only [pc, if_true] at taken
      cases taken
      refine ⟨inv.short, inv.handled, fun _ => Or.inl ?_⟩
      rw [sensorGetJson_all system.tray inv.short]
      exact ⟨_, rfl, rfl, ShowsAlive.refl _⟩
  | sending =>
      simp only [pc] at taken
      cases taken
      refine ⟨inv.short, inv.handled, fun given => ?_⟩
      rcases inv.shown given with shown | owed
      · exact Or.inl shown
      · refine Or.inr (owed.mono rfl (fun building => ?_) id id id)
        rw [pc] at building
        cases building

theorem pushInv_step {system next : PushSystem} {action : PushAction} (inv : PushInv system)
    (fits : action ≠ .push false) (taken : pushStep system action = some next) :
    PushInv next := by
  cases action with
  | dht now => exact pushInv_dht inv taken
  | flow now => exact pushInv_flow inv taken
  | health now =>
      cases taken
      exact pushInv_health now inv
  | push ret =>
      cases ret with
      | true => exact pushInv_push inv taken
      | false => exact absurd rfl fits
  | createPush =>
      simp only [pushStep] at taken
      split at taken <;> cases taken
      exact ⟨inv.short, fun _ => rfl, inv.shown⟩
  | dhtRead t h =>
      simp only [pushStep] at taken
      split at taken <;> cases taken
      rename_i waiting
      refine ⟨inv.short, inv.handled, fun given => ?_⟩
      rcases inv.shown given with shown | owed
      · exact Or.inl shown
      · refine Or.inr (owed.mono rfl id (fun idle => ?_) id id)
        rw [waiting] at idle
        cases idle
  | flowRead count =>
      simp only [pushStep] at taken
      split at taken <;> cases taken
      rename_i waiting
      refine ⟨inv.short, inv.handled, fun given => ?_⟩
      rcases inv.shown given with shown | owed
      · exact Or.inl shown
      · refine Or.inr (owed.mono rfl id id (fun idle => ?_) id)
        rw [waiting] at idle
        cases idle

theorem PushSystem.notify_dhtWork (system : PushSystem) :
    system.notify.dhtWork = system.dhtWork := by
  unfold PushSystem.notify
  split <;> rfl

/-- The other tasks leave the work of dht_task alone. -/
theorem pushStep_dhtWork {system next : PushSystem} {action : PushAction}
    (other : ∀ now, action ≠ .dht now) (unread : ∀ t h, action ≠ .dhtRead t h)
    (taken : pushStep system action = some next) : next.dhtWork = system.dhtWork := by
  cases action with
  | dht now => exact absurd rfl (other now)
  | dhtRead t h => exact absurd rfl (unread t h)
  | createPush | flowRead =>
      simp only [pushStep] at taken
      split at taken <;> cases taken
      rfl
  | flow now =>
      simp only [pushStep, flowStep] at taken
      split at taken <;> cases taken
      · rfl
      · rfl
      · exact system.notify_dhtWork
  | health now =>
      cases taken
      rw [healthPieceStep]
      split
      · rfl
      · split
        · exact system.notify_dhtWork
        · rfl
  | push fits =>
      simp only [pushStep, pushPieceStep] at taken
      split at taken
      · split at taken <;> cases taken
        rfl
      · split at taken <;> cases taken <;> rfl
      · cases taken
        rfl

theorem dhtValue_ne (byte : UInt8) : dhtValue byte ≠ -999 := by
  unfold dhtValue
  omega

theorem recorded_of_unchanged {work : DhtWork} {last : Option (UInt8 × UInt8)} {t h : UInt8}
    (compared : work.Compared last)
    (unchanged : ¬ (dhtValue t ≠ work.lastT ∨ dhtValue h ≠ work.lastH)) :
    work.Recorded (t, h) := by
  rw [not_or, not_not, not_not] at unchanged
  rcases compared.passed with sentinel | ⟨temp, hum⟩
  · exact absurd (unchanged.1.trans sentinel) (dhtValue_ne t)
  · exact ⟨temp.symm.trans unchanged.1.symm, hum.symm.trans unchanged.2.symm⟩

theorem comparedReads_snoc (trace : List (PushSystem × PushAction)) (system : PushSystem)
    (action : PushAction) :
    comparedReads (trace ++ [(system, action)]) =
      comparedReads trace ++ (comparedRead system action).toList :=
  Transition.filterMap_snoc _ trace _

theorem comparedReads_kept (trace : List (PushSystem × PushAction)) {system : PushSystem}
    {action : PushAction} (uncompared : comparedRead system action = none) :
    comparedReads (trace ++ [(system, action)]) = comparedReads trace := by
  rw [comparedReads_snoc, uncompared, Option.toList_none, List.append_nil]

theorem last_compared (trace : List (PushSystem × PushAction)) {system : PushSystem}
    {action : PushAction} {read : UInt8 × UInt8}
    (compared : comparedRead system action = some read) :
    (comparedReads (trace ++ [(system, action)])).getLast? = some read := by
  rw [comparedReads_snoc, compared, Option.toList_some, List.getLast?_concat]

theorem stage_dht {trace : List (PushSystem × PushAction)} {system next : PushSystem}
    {now : UInt32} (stage : system.dhtWork.Stage (comparedReads trace).getLast?)
    (taken : dhtStep system now = some next) :
    next.dhtWork.Stage (comparedReads (trace ++ [(system, .dht now)])).getLast? := by
  unfold dhtStep at taken
  unfold DhtWork.Stage PushSystem.dhtWork at stage
  cases pc : system.dht with
  | idle => simp [pc] at taken
  | read t h =>
      simp only [pc] at stage taken
      cases taken
      have compared : comparedRead system (.dht now) = some (t, h) := by rw [comparedRead, pc]
      rw [last_compared trace compared]
      unfold DhtWork.Stage PushSystem.dhtWork
      split_ifs with changed
      · rfl
      · have recorded := recorded_of_unchanged stage changed
        refine ⟨stage.passed, fun read is => ?_⟩
        cases is
        exact recorded
  | tray t h =>
      simp only [pc] at stage taken
      cases taken
      rw [comparedReads_kept trace (by rw [comparedRead, pc])]
      exact ⟨stage, rfl, rfl⟩
  | mark t h =>
      simp only [pc] at stage taken
      cases taken
      rw [comparedReads_kept trace (by rw [comparedRead, pc])]
      exact stage
  | notify t h =>
      simp only [pc] at stage taken
      cases taken
      rw [comparedReads_kept trace (by rw [comparedRead, pc])]
      obtain ⟨last, temp, hum⟩ := stage
      have work := system.notify_dhtWork
      have tray : system.notify.tray.temp = dhtValue t ∧ system.notify.tray.hum = dhtValue h :=
        ⟨(congrArg DhtWork.temp work).trans temp, (congrArg DhtWork.hum work).trans hum⟩
      refine ⟨Or.inr ⟨tray.1.symm, tray.2.symm⟩, fun read is => ?_⟩
      cases last.symm.trans is
      exact tray

theorem stage_step {trace : List (PushSystem × PushAction)} {system next : PushSystem}
    {action : PushAction} (stage : system.dhtWork.Stage (comparedReads trace).getLast?)
    (taken : pushStep system action = some next) :
    next.dhtWork.Stage (comparedReads (trace ++ [(system, action)])).getLast? := by
  cases action with
  | dht now => exact stage_dht stage taken
  | dhtRead t h =>
      simp only [pushStep] at taken
      split at taken <;> cases taken
      rename_i waiting
      rw [comparedReads_kept trace rfl]
      unfold DhtWork.Stage PushSystem.dhtWork at stage
      rw [waiting] at stage
      exact ⟨stage.passed, stage.recorded⟩
  | createPush | flowRead count | flow now | health now | push fits =>
      rw [comparedReads_kept trace rfl, pushStep_dhtWork (by simp) (by simp) taken]
      exact stage

/-- Every read of dht11_read is compared once, in order. -/
theorem dhtReads_eq {start : List (CString × UInt32)} {trace : List (PushSystem × PushAction)}
    {system : PushSystem} (run : PushHistory start trace system) :
    dhtReads trace = comparedReads trace ++ system.dht.uncompared := by
  induction run with
  | nil => rfl
  | @snoc trace system next action _ taken ih =>
      rw [comparedReads_snoc, dhtReads, Transition.filterMap_snoc, ← dhtReads, ih]
      cases action with
      | dhtRead t h =>
          simp only [pushStep] at taken
          split at taken <;> cases taken
          rename_i waiting
          simp [waiting, DhtPc.uncompared, returnedRead, comparedRead]
      | dht now =>
          simp only [pushStep, dhtStep] at taken
          split at taken
          · cases taken
          · rename_i t h pc
            cases taken
            simp only [pc, comparedRead, returnedRead, DhtPc.uncompared]
            split_ifs <;> simp
          all_goals
            rename_i t h pc
            cases taken
            simp [pc, comparedRead, returnedRead, DhtPc.uncompared]
      | createPush | flowRead count | flow now | health now | push fits =>
          have pc := congrArg DhtWork.pc (pushStep_dhtWork (by simp) (by simp) taken)
          rw [show next.dht = system.dht from pc]
          simp [returnedRead, comparedRead]

theorem reported_of_history {entries : List (CString × UInt32)}
    {trace : List (PushSystem × PushAction)} {system : PushSystem}
    (run : PushHistory entries trace system) (quiet : system.dht.inFlight = false) :
    Reported trace system.dht system.tray := by
  have stage : system.dhtWork.Stage (comparedReads trace).getLast? :=
    run.invariant (fun trace system => system.dhtWork.Stage (comparedReads trace).getLast?)
      (fun _ _ => True) ⟨Or.inl rfl, nofun⟩ (fun _ _ _ _ _ stage _ => stage_step stage)
      (fun _ _ => trivial)
  have recorded : ∀ read, (comparedReads trace).getLast? = some read → system.tray.Has read := by
    unfold DhtWork.Stage PushSystem.dhtWork at stage
    cases pc : system.dht with
    | idle | read =>
        rw [pc] at stage
        exact stage.recorded
    | tray | mark | notify =>
        rw [pc] at quiet
        cases quiet
  refine ⟨recorded, fun idle read last => recorded read ?_⟩
  rw [dhtReads_eq run, idle] at last
  exact (List.append_nil (comparedReads trace)) ▸ last

theorem Settled.shown {system : PushSystem} (settled : Settled system) (inv : PushInv system) :
    system.Shown := by
  refine (inv.shown settled.given).resolve_right ?_
  rintro (notified | building | dhtOwes | flow | health)
  · exact absurd (settled.unnotified ▸ notified) (Nat.lt_irrefl 0)
  · cases settled.blocked.symm.trans building
  · cases settled.dht.symm.trans dhtOwes
  · cases settled.flow.symm.trans flow
  · cases settled.health.symm.trans health

/-- While every sensor_get_json succeeds, no update stays unpushed once the tasks have
settled. -/
theorem settled_json_current (entries : List (CString × UInt32))
    (trace : List (PushSystem × PushAction)) (final : PushSystem)
    (run : PushHistory entries trace final)
    (succeeds : ∀ taken ∈ trace, taken.2 ≠ .push false) (settled : Settled final) :
    ∃ json, final.built = some json ∧ Current trace final json := by
  have inv := run.invariant (fun _ system => PushInv system) (fun _ action => action ≠ .push false)
    (pushInv_boot entries) (fun _ _ _ _ _ inv fits taken => pushInv_step inv fits taken) succeeds
  obtain ⟨json, built, tray, alive⟩ := settled.shown inv
  refine ⟨json, built, tray, tray ▸ reported_of_history run settled.dht, fun s member live => ?_⟩
  obtain ⟨index, stored⟩ := List.mem_iff_getElem?.mp member
  refine List.mem_of_getElem? (alive index s.name ?_)
  rw [Registry.flags, List.getElem?_map, stored, Option.map_some, live]

def firstReadPushed : List PushAction :=
  .createPush :: .dhtRead 24 61 :: List.replicate 4 (PushAction.dht 2000) ++
    List.replicate 3 (PushAction.push true) ++ List.replicate 2 (PushAction.health 2100) ++
    List.replicate 3 (PushAction.push true)

def PushSystem.isSettled (system : PushSystem) : Bool :=
  system.handle && system.given && decide (system.push = .blocked) &&
    decide (system.notified = 0) && !system.dht.inFlight && !system.flow.inFlight &&
    !system.health.inFlight

theorem settled_of_isSettled {system : PushSystem} (is : system.isSettled = true) :
    Settled system := by
  simp only [PushSystem.isSettled, Bool.and_eq_true, Bool.not_eq_true', decide_eq_true_eq] at is
  obtain ⟨⟨⟨⟨⟨⟨handle, given⟩, blocked⟩, unnotified⟩, dhtDone⟩, flowDone⟩, healthDone⟩ := is
  exact ⟨handle, given, blocked, unnotified, dhtDone, flowDone, healthDone⟩

theorem first_read_current :
    ∃ trace final, PushHistory [(dht, 10000), (flowSensor, 5000)] trace final ∧ Settled final ∧
      ∃ json, final.built = some json ∧ Current trace final json := by
  obtain ⟨final, run, settled⟩ := Transition.exists_run_of_exec firstReadPushed
    PushSystem.isSettled
    (show (Transition.exec pushStep
      (PushSystem.boot [(dht, 10000), (flowSensor, 5000)]) _).any _ = true by decide)
  have quiet := settled_of_isSettled settled
  exact ⟨_, final, run, quiet, settled_json_current _ _ final run (by decide) quiet⟩

def secondReadReturned : List PushAction := firstReadPushed ++ [.dhtRead 25 60]

/-- No task has a notification to give, and the last JSON does not show the last read. -/
theorem read_before_comparison :
    ∃ final, PushHistory [(dht, 10000), (flowSensor, 5000)] (Transition.execTrace pushStep
        (PushSystem.boot [(dht, 10000), (flowSensor, 5000)]) secondReadReturned) final ∧
      (∀ action ∈ secondReadReturned, action ≠ .push false) ∧ Settled final ∧
      (dhtReads (Transition.execTrace pushStep
        (PushSystem.boot [(dht, 10000), (flowSensor, 5000)]) secondReadReturned)).getLast? =
          some (25, 60) ∧
      ∃ json, final.built = some json ∧ json.tray = ⟨24, 61, 0⟩ ∧ ¬ json.tray.Has (25, 60) := by
  obtain ⟨final, run, settled⟩ := Transition.exists_run_of_exec secondReadReturned
    (fun (system : PushSystem) => system.isSettled &&
      decide (system.built.map SensorJson.tray = some ⟨24, 61, 0⟩))
    (show (Transition.exec pushStep
      (PushSystem.boot [(dht, 10000), (flowSensor, 5000)]) _).any _ = true by decide +kernel)
  simp only [Bool.and_eq_true, decide_eq_true_eq] at settled
  obtain ⟨json, is, shown⟩ := Option.map_eq_some_iff.mp settled.2
  refine ⟨final, run, by decide +kernel, settled_of_isSettled settled.1, by decide +kernel,
    json, is, shown, fun has => ?_⟩
  rw [shown] at has
  exact absurd has.1 (by decide)

end HydroGovernor
