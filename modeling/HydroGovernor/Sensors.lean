import HydroGovernor.Library.CString
import HydroGovernor.Library.WrappingClock

/-! The sensor registry of sensor_manager.c: registration, marks and the health pass. -/

namespace HydroGovernor

open Firmware

def maxSensors : Nat := 10

/-- `sensor_meta_t`. -/
structure SensorMeta where
  name : CString
  timeoutMs : UInt32
  lastSeenMs : UInt32
  active : Bool
  alive : Bool
  prevAlive : Bool
  deriving DecidableEq, Repr

/-- The first `s_count` entries of `s_sensors`. -/
structure Registry where
  sensors : List SensorMeta
  fits : sensors.length ≤ maxSensors
  deriving DecidableEq, Repr

def Registry.empty : Registry := ⟨[], Nat.zero_le _⟩

def sensorRegister (registry : Registry) (name : CString) (timeoutMs : UInt32) : Registry :=
  if full : maxSensors ≤ registry.sensors.length then registry
  else
    { sensors := registry.sensors ++
        [{ name := name.take 15
           timeoutMs := timeoutMs
           lastSeenMs := 0
           active := false
           alive := false
           prevAlive := false }]
      fits := by
        rw [List.length_append, List.length_singleton]
        omega }

/-- The registry that a list of sensor_register calls leaves. -/
def registered (entries : List (CString × UInt32)) : Registry :=
  entries.foldl (fun registry entry => sensorRegister registry entry.1 entry.2) Registry.empty

theorem sensorRegister_all {property : SensorMeta → Prop} {registry : Registry} {name : CString}
    {timeoutMs : UInt32} (written : property ⟨name.take 15, timeoutMs, 0, false, false, false⟩)
    (holds : ∀ s ∈ registry.sensors, property s) :
    ∀ s ∈ (sensorRegister registry name timeoutMs).sensors, property s := by
  unfold sensorRegister
  split
  · exact holds
  · intro s member
    rcases List.mem_append.mp member with before | added
    · exact holds s before
    · rw [List.mem_singleton.mp added]
      exact written

theorem registered_all {property : SensorMeta → Prop}
    (written : ∀ (name : CString) (timeoutMs : UInt32),
      property ⟨name.take 15, timeoutMs, 0, false, false, false⟩)
    (entries : List (CString × UInt32)) : ∀ s ∈ (registered entries).sensors, property s := by
  have folded : ∀ registry : Registry, (∀ s ∈ registry.sensors, property s) →
      ∀ s ∈ (entries.foldl (fun registry entry => sensorRegister registry entry.1 entry.2)
        registry).sensors, property s := by
    induction entries with
    | nil => exact fun _ holds => holds
    | cons entry rest ih =>
        intro registry holds
        exact ih _ (sensorRegister_all (written entry.1 entry.2) holds)
  exact folded Registry.empty (by simp [Registry.empty])

theorem registered_inactive (entries : List (CString × UInt32)) :
    ∀ s ∈ (registered entries).sensors, s.active = false :=
  registered_all (fun _ _ => rfl) entries

theorem registered_short (entries : List (CString × UInt32)) :
    ∀ s ∈ (registered entries).sensors, s.name.length ≤ 15 :=
  registered_all (fun name _ => CString.take_length_le 15 name) entries

def dht : CString := CString.ofBuffer (ascii "dht")

def nowMs (clockMs : Nat) : UInt32 := stamp clockMs

/-- The loop of sensor_mark_alive: the first sensor of the name takes the stamp. -/
def markFirst (name : CString) (t : UInt32) : List SensorMeta → List SensorMeta
  | [] => []
  | s :: rest =>
      if s.name = name then { s with lastSeenMs := t, active := true } :: rest
      else s :: markFirst name t rest

@[simp] theorem markFirst_length (name : CString) (t : UInt32) (sensors : List SensorMeta) :
    (markFirst name t sensors).length = sensors.length := by
  induction sensors with
  | nil => rfl
  | cons s rest ih =>
      unfold markFirst
      split
      · rfl
      · rw [List.length_cons, ih, List.length_cons]

theorem mem_markFirst {name : CString} {t : UInt32} {sensors : List SensorMeta} {s : SensorMeta}
    (member : s ∈ markFirst name t sensors) :
    s ∈ sensors ∨ (s.name = name ∧ s.lastSeenMs = t) := by
  induction sensors with
  | nil => exact Or.inl member
  | cons first rest ih =>
      unfold markFirst at member
      split at member
      · rename_i same
        rcases List.mem_cons.mp member with rfl | later
        · exact Or.inr ⟨same, rfl⟩
        · exact Or.inl (List.mem_cons_of_mem _ later)
      · rcases List.mem_cons.mp member with rfl | later
        · exact Or.inl List.mem_cons_self
        · exact (ih later).imp (List.mem_cons_of_mem _) id

/-- The mutex-protected section of sensor_mark_alive. -/
def Registry.mark (registry : Registry) (name : CString) (t : UInt32) : Registry where
  sensors := markFirst name t registry.sensors
  fits := by
    rw [markFirst_length]
    exact registry.fits

/-- `evt_t` of sensor_update_health. -/
structure HealthEvent where
  dead : Bool
  transition : Bool
  name : CString
  deriving DecidableEq, Repr

/-- The update of one sensor in a pass that read the clock as `t`. -/
def SensorMeta.check (t : UInt32) (s : SensorMeta) : SensorMeta :=
  { s with
    prevAlive := s.alive
    alive := s.active && decide (t - s.lastSeenMs < s.timeoutMs) }

/-- The event of a sensor just checked: DEAD in every cycle, RECOVERED once. -/
def SensorMeta.event (s : SensorMeta) : Option HealthEvent :=
  let tx := s.prevAlive != s.alive
  if !s.alive || (s.alive && tx) then some ⟨!s.alive, tx, s.name.take 15⟩ else none

/-- The loop of sensor_update_health with its event array. -/
def healthLoop (t : UInt32) :
    List SensorMeta → List HealthEvent → List SensorMeta × List HealthEvent
  | [], events => ([], events)
  | s :: rest, events =>
      let checked := s.check t
      let events :=
        match checked.event with
        | some event => if events.length < maxSensors then events ++ [event] else events
        | none => events
      let (sensors, events) := healthLoop t rest events
      (checked :: sensors, events)

theorem healthLoop_sensors (t : UInt32) (sensors : List SensorMeta) (events : List HealthEvent) :
    (healthLoop t sensors events).1 = sensors.map (SensorMeta.check t) := by
  induction sensors generalizing events with
  | nil => rfl
  | cons s rest ih => simp only [healthLoop, List.map_cons, ih]

theorem healthLoop_events (t : UInt32) (sensors : List SensorMeta) (events : List HealthEvent)
    (room : events.length + sensors.length ≤ maxSensors) :
    (healthLoop t sensors events).2 =
      events ++ (sensors.map (SensorMeta.check t)).filterMap SensorMeta.event := by
  induction sensors generalizing events with
  | nil => simp [healthLoop]
  | cons s rest ih =>
      rw [List.length_cons] at room
      have space : events.length < maxSensors := by omega
      cases event : (s.check t).event with
      | none =>
          have fits : events.length + rest.length ≤ maxSensors := by omega
          simp [healthLoop, event, ih events fits]
      | some recorded =>
          have fits : (events ++ [recorded]).length + rest.length ≤ maxSensors := by
            rw [List.length_append, List.length_singleton]
            omega
          simp [healthLoop, event, space, ih _ fits]

/-- The mutex-protected section of sensor_update_health. -/
def Registry.checkHealth (registry : Registry) (t : UInt32) : Registry where
  sensors := (healthLoop t registry.sensors []).1
  fits := by
    rw [healthLoop_sensors, List.length_map]
    exact registry.fits

/-- The events that the pass reports after it. -/
def Registry.healthEvents (registry : Registry) (t : UInt32) : List HealthEvent :=
  (healthLoop t registry.sensors []).2

theorem Registry.checkHealth_sensors (registry : Registry) (t : UInt32) :
    (registry.checkHealth t).sensors = registry.sensors.map (SensorMeta.check t) :=
  healthLoop_sensors t registry.sensors []

theorem Registry.healthEvents_eq (registry : Registry) (t : UInt32) :
    registry.healthEvents t = (registry.checkHealth t).sensors.filterMap SensorMeta.event := by
  have room : ([] : List HealthEvent).length + registry.sensors.length ≤ maxSensors := by
    simpa using registry.fits
  rw [healthEvents, healthLoop_events t registry.sensors [] room, checkHealth_sensors]
  rfl

theorem SensorMeta.event_of_alive {s : SensorMeta} (alive : s.alive = true) {event : HealthEvent}
    (reported : s.event = some event) : event.dead = false := by
  simp only [SensorMeta.event, alive] at reported
  split at reported
  · cases reported
    rfl
  · cases reported

end HydroGovernor
