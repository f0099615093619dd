import HydroGovernor.Library.Transition
import HydroGovernor.Sensors

/-! Producers and the health engine interleaved: both read the clock before they take the
mutex. -/

namespace HydroGovernor

open Firmware

/-- The clock in milliseconds, the registry, the sensor_mark_alive calls that have read the
clock and wait for the mutex, the same for the pass of sensor_update_health, and the events
of the last pass. -/
structure SensorSystem where
  clockMs : Nat
  registry : Registry
  marks : List (CString × UInt32)
  pass : Option UInt32
  events : List HealthEvent
  deriving DecidableEq, Repr

inductive SensorAction where
  | tick (ms : Nat)
  | readMark (name : CString)
  | commitMark (index : Nat)
  | readPass
  | commitPass
  deriving DecidableEq, Repr

def SensorSystem.boot (entries : List (CString × UInt32)) : SensorSystem :=
  ⟨0, registered entries, [], none, []⟩

def sensorStep (system : SensorSystem) : SensorAction → Option SensorSystem
  | .tick ms => some { system with clockMs := system.clockMs + ms }
  | .readMark name => some { system with marks := system.marks ++ [(name, nowMs system.clockMs)] }
  | .commitMark index =>
      match system.marks[index]? with
      | none => none
      | some (name, t) =>
          some { system with
            registry := system.registry.mark name t
            marks := system.marks.eraseIdx index }
  | .readPass =>
      match system.pass with
      | none => some { system with pass := some (nowMs system.clockMs) }
      | some _ => none
  | .commitPass =>
      match system.pass with
      | none => none
      | some t =>
          some { system with
            registry := system.registry.checkHealth t
            pass := none
            events := system.registry.healthEvents t }

abbrev SensorHistory (entries : List (CString × UInt32))
    (trace : List (SensorSystem × SensorAction)) (system : SensorSystem) : Prop :=
  Transition.Run sensorStep (SensorSystem.boot entries) trace system

theorem clock_le_step {system next : SensorSystem} {action : SensorAction}
    (taken : sensorStep system action = some next) : system.clockMs ≤ next.clockMs := by
  cases action <;> simp only [sensorStep] at taken <;> (try split at taken) <;> cases taken <;>
    simp

theorem clock_le_final {entries : List (CString × UInt32)}
    {trace : List (SensorSystem × SensorAction)} {final : SensorSystem}
    (run : SensorHistory entries trace final) :
    ∀ taken ∈ trace, taken.1.clockMs ≤ final.clockMs := by
  refine run.invariant (fun trace final => ∀ taken ∈ trace, taken.1.clockMs ≤ final.clockMs)
    (fun _ _ => True) (by simp) ?_ (fun _ _ => trivial)
  intro trace state action next _ earlier _ taken pair member
  have later := clock_le_step taken
  rcases List.mem_append.mp member with before | last
  · exact Nat.le_trans (earlier pair before) later
  · rw [List.mem_singleton.mp last]
    exact later

def markReadAt (trace : List (SensorSystem × SensorAction)) (name : CString) (t : UInt32)
    (ms : Nat) : Prop :=
  ∃ earlier : SensorSystem, (earlier, SensorAction.readMark name) ∈ trace ∧
    earlier.clockMs = ms ∧ t = nowMs ms

def passReadAt (trace : List (SensorSystem × SensorAction)) (t : UInt32) (ms : Nat) : Prop :=
  ∃ earlier : SensorSystem, (earlier, SensorAction.readPass) ∈ trace ∧
    earlier.clockMs = ms ∧ t = nowMs ms

/-- Every stamp in the system was read from the clock by a call of the history. -/
structure StampsRead (trace : List (SensorSystem × SensorAction)) (system : SensorSystem) :
    Prop where
  stored : ∀ s ∈ system.registry.sensors, s.active = true →
    ∃ ms, markReadAt trace s.name s.lastSeenMs ms
  waiting : ∀ mark ∈ system.marks, ∃ ms, markReadAt trace mark.1 mark.2 ms
  pass : ∀ t, system.pass = some t → ∃ ms, passReadAt trace t ms

theorem stampsRead_boot (entries : List (CString × UInt32)) :
    StampsRead [] (SensorSystem.boot entries) where
  stored s member active := by
    have inactive := registered_inactive entries s member
    rw [inactive] at active
    cases active
  waiting mark member := by cases member
  pass t is := by cases is

theorem markReadAt.later {trace : List (SensorSystem × SensorAction)} {name : CString}
    {t : UInt32} {ms : Nat} (read : markReadAt trace name t ms)
    (more : List (SensorSystem × SensorAction)) : markReadAt (trace ++ more) name t ms := by
  obtain ⟨earlier, member, clock, stamped⟩ := read
  exact ⟨earlier, List.mem_append_left _ member, clock, stamped⟩

theorem passReadAt.later {trace : List (SensorSystem × SensorAction)} {t : UInt32} {ms : Nat}
    (read : passReadAt trace t ms) (more : List (SensorSystem × SensorAction)) :
    passReadAt (trace ++ more) t ms := by
  obtain ⟨earlier, member, clock, stamped⟩ := read
  exact ⟨earlier, List.mem_append_left _ member, clock, stamped⟩

theorem StampsRead.later {trace : List (SensorSystem × SensorAction)} {system : SensorSystem}
    (read : StampsRead trace system) (more : List (SensorSystem × SensorAction)) :
    StampsRead (trace ++ more) system where
  stored s member active := (read.stored s member active).imp (fun _ known => known.later more)
  waiting mark member := (read.waiting mark member).imp (fun _ known => known.later more)
  pass t is := (read.pass t is).imp (fun _ known => known.later more)

theorem stampsRead_step {trace : List (SensorSystem × SensorAction)}
    {system next : SensorSystem} {action : SensorAction} (before : StampsRead trace system)
    (taken : sensorStep system action = some next) :
    StampsRead (trace ++ [(system, action)]) next := by
  have last : (system, action) ∈ trace ++ [(system, action)] :=
    List.mem_append_right _ (List.mem_singleton_self _)
  have read := before.later [(system, action)]
  cases action with
  | tick ms =>
      cases taken
      exact ⟨read.stored, read.waiting, read.pass⟩
  | readMark name =>
      cases taken
      refine ⟨read.stored, fun mark member => ?_, read.pass⟩
      rcases List.mem_append.mp member with old | new
      · exact read.waiting mark old
      · rw [List.mem_singleton.mp new]
        exact ⟨system.clockMs, system, last, rfl, rfl⟩
  | commitMark index =>
      simp only [sensorStep] at taken
      split at taken
      · cases taken
      · rename_i name t slot
        cases taken
        refine ⟨fun s member active => ?_, fun mark member => ?_, read.pass⟩
        · rcases mem_markFirst member with old | ⟨named, stamped⟩
          · exact read.stored s old active
          · rw [named, stamped]
            exact read.waiting (name, t) (List.mem_of_getElem? slot)
        · exact read.waiting mark (List.mem_of_mem_eraseIdx member)
  | readPass =>
      simp only [sensorStep] at taken
      split at taken
      · cases taken
        refine ⟨read.stored, read.waiting, fun t is => ?_⟩
        cases is
        exact ⟨system.clockMs, system, last, rfl, rfl⟩
      · cases taken
  | commitPass =>
      simp only [sensorStep] at taken
      split at taken
      · cases taken
      · rename_i t is
        cases taken
        refine ⟨fun s member active => ?_, read.waiting, nofun⟩
        rw [Registry.checkHealth_sensors] at member
        obtain ⟨old, stored, rfl⟩ := List.mem_map.mp member
        exact read.stored old stored active

/-- Every registered sensor whose stamp was read less than its timeout before the pass read
the clock, or after it, is alive after the pass, and its event, if any, is not DEAD. -/
def noFalseDead (front : List (SensorSystem × SensorAction)) (system next : SensorSystem) :
    Prop :=
  ∀ t, system.pass = some t →
    ∀ (i : Nat) (s : SensorMeta), system.registry.sensors[i]? = some s → s.active = true →
    ∀ seen now, markReadAt front s.name s.lastSeenMs seen → passReadAt front t now →
      now < seen + s.timeoutMs.toNat ∨ now < seen →
        ∃ checked, next.registry.sensors[i]? = some checked ∧ checked.alive = true ∧
          ∀ event, checked.event = some event → event.dead = false

/-- No marked sensor holds a stamp later than the pass's own, unless its timeout is so long
that the wrapped difference stays below it. -/
def notOvertaken (system : SensorSystem) : Prop :=
  ∀ t, system.pass = some t → ∀ s ∈ system.registry.sensors, s.active = true →
    t.toNat < s.lastSeenMs.toNat →
      2 ^ 32 < s.lastSeenMs.toNat - t.toNat + s.timeoutMs.toNat

theorem commitPass_cases {system next : SensorSystem}
    (taken : sensorStep system .commitPass = some next) :
    ∃ t, system.pass = some t ∧ next.registry = system.registry.checkHealth t ∧
      next.events = system.registry.healthEvents t := by
  simp only [sensorStep] at taken
  split at taken
  · cases taken
  · rename_i t is
    cases taken
    exact ⟨t, is, rfl, rfl⟩

theorem check_alive_iff {s : SensorMeta} {t : UInt32} (active : s.active = true) :
    (s.check t).alive = true ↔
      if t.toNat < s.lastSeenMs.toNat then
        2 ^ 32 < s.lastSeenMs.toNat - t.toNat + s.timeoutMs.toNat
      else t.toNat < s.lastSeenMs.toNat + s.timeoutMs.toNat := by
  have tested : (s.check t).alive = true ↔ t - s.lastSeenMs < s.timeoutMs := by
    simp [SensorMeta.check, active]
  rw [tested]
  split
  · rename_i later
    exact age_lt_iff_of_lt later
  · rename_i earlier
    exact age_lt_iff_of_le (Nat.le_of_not_lt earlier)

theorem checked_sensor {system next : SensorSystem} {t : UInt32} {i : Nat} {s : SensorMeta}
    (registry : next.registry = system.registry.checkHealth t)
    (stored : system.registry.sensors[i]? = some s) :
    next.registry.sensors[i]? = some (s.check t) := by
  rw [registry, Registry.checkHealth_sensors, List.getElem?_map, stored]
  rfl

section Pass

variable {entries : List (CString × UInt32)} {trace front back : List (SensorSystem × SensorAction)}
  {final system next : SensorSystem}

theorem markReadAt.time {name : CString} {t : UInt32} {ms : Nat}
    (bounded : ∀ taken ∈ trace, taken.1.clockMs < 2 ^ 32) (read : markReadAt trace name t ms) :
    t.toNat = ms := by
  obtain ⟨earlier, member, rfl, rfl⟩ := read
  exact stamp_toNat (bounded _ member)

theorem passReadAt.time {t : UInt32} {ms : Nat}
    (bounded : ∀ taken ∈ trace, taken.1.clockMs < 2 ^ 32) (read : passReadAt trace t ms) :
    t.toNat = ms := by
  obtain ⟨earlier, member, rfl, rfl⟩ := read
  exact stamp_toNat (bounded _ member)

theorem stampsRead_before {action : SensorAction} (run : SensorHistory entries trace final)
    (split : trace = front ++ (system, action) :: back) : StampsRead front system :=
  run.invariant_before StampsRead (fun _ _ => True) (stampsRead_boot entries)
    (fun _ _ _ _ _ before _ taken => stampsRead_step before taken) (fun _ _ => trivial) split

theorem bounded_before {action : SensorAction} (run : SensorHistory entries trace final)
    (short : final.clockMs < 2 ^ 32) (split : trace = front ++ (system, action) :: back) :
    ∀ taken ∈ front, taken.1.clockMs < 2 ^ 32 := by
  intro taken member
  have inTrace : taken ∈ trace := by
    rw [split]
    exact List.mem_append_left _ member
  exact Nat.lt_of_le_of_lt (clock_le_final run taken inTrace) short

theorem notOvertaken_of_noFalseDead (stamps : StampsRead front system)
    (bounded : ∀ taken ∈ front, taken.1.clockMs < 2 ^ 32)
    (taken : sensorStep system .commitPass = some next)
    (free : noFalseDead front system next) : notOvertaken system := by
  obtain ⟨pass, passing, registry, _⟩ := commitPass_cases taken
  intro t is s member active later
  obtain ⟨i, stored⟩ := List.mem_iff_getElem?.mp member
  obtain ⟨seen, seenAt⟩ := stamps.stored s member active
  obtain ⟨now, nowAt⟩ := stamps.pass t is
  cases passing.symm.trans is
  have fresh : now < seen := by
    rw [← seenAt.time bounded, ← nowAt.time bounded]
    exact later
  obtain ⟨checked, found, alive, _⟩ := free pass is i s stored active seen now seenAt nowAt
    (Or.inr fresh)
  cases (checked_sensor registry stored).symm.trans found
  have verdict := (check_alive_iff active).mp alive
  rwa [if_pos later] at verdict

theorem noFalseDead_of_notOvertaken (bounded : ∀ taken ∈ front, taken.1.clockMs < 2 ^ 32)
    (taken : sensorStep system .commitPass = some next) (clear : notOvertaken system) :
    noFalseDead front system next := by
  obtain ⟨pass, passing, registry, _⟩ := commitPass_cases taken
  intro t is i s stored active seen now seenAt nowAt fresh
  cases passing.symm.trans is
  rw [← seenAt.time bounded, ← nowAt.time bounded] at fresh
  have alive : (s.check pass).alive = true := by
    rw [check_alive_iff active]
    split
    · rename_i later
      exact clear pass is s (List.mem_of_getElem? stored) active later
    · rename_i earlier
      exact fresh.resolve_right earlier
  exact ⟨s.check pass, checked_sensor registry stored, alive,
    fun event reported => SensorMeta.event_of_alive alive reported⟩

end Pass

/-- A pass reports no false DEAD exactly when no later stamp overtook it. -/
theorem pass_noFalseDead_iff (entries : List (CString × UInt32))
    (trace : List (SensorSystem × SensorAction)) (final : SensorSystem)
    (run : SensorHistory entries trace final) (short : final.clockMs < 2 ^ 32) :
    ∀ front system next back, trace = front ++ (system, .commitPass) :: back →
      sensorStep system .commitPass = some next →
      next.events = next.registry.sensors.filterMap SensorMeta.event ∧
        (noFalseDead front system next ↔ notOvertaken system) := by
  intro front system next back split taken
  have bounded := bounded_before run short split
  have stamps := stampsRead_before run split
  refine ⟨?_, notOvertaken_of_noFalseDead stamps bounded taken,
    noFalseDead_of_notOvertaken bounded taken⟩
  obtain ⟨pass, _, registry, events⟩ := commitPass_cases taken
  rw [events, registry, Registry.healthEvents_eq]

def markThenPass : List SensorAction :=
  [.tick 5000, .readMark dht, .commitMark 0, .tick 900, .readPass]

instance (system : SensorSystem) : Decidable (notOvertaken system) := by
  unfold notOvertaken
  cases pass : system.pass with
  | none => exact isTrue (by simp)
  | some t =>
      exact decidable_of_iff (∀ s ∈ system.registry.sensors, s.active = true →
        t.toNat < s.lastSeenMs.toNat → 2 ^ 32 < s.lastSeenMs.toNat - t.toNat + s.timeoutMs.toNat)
        ⟨fun holds _ is => by cases is; exact holds, fun holds => holds t rfl⟩

theorem exists_sensorHistory (entries : List (CString × UInt32)) (actions : List SensorAction)
    (property : SensorSystem → Bool)
    (executed : (Transition.exec sensorStep (SensorSystem.boot entries) actions).any property =
      true) :
    ∃ final, SensorHistory entries
      (Transition.execTrace sensorStep (SensorSystem.boot entries) actions) final ∧
        property final = true :=
  Transition.exists_run_of_exec actions property executed

theorem marked_sensor_stays_alive :
    ∃ system next : SensorSystem, sensorStep system .commitPass = some next ∧
      next.registry.sensors.map SensorMeta.alive = [true] ∧
      noFalseDead (Transition.execTrace sensorStep (SensorSystem.boot [(dht, 10000)])
        markThenPass) system next := by
  obtain ⟨system, run, ready⟩ := exists_sensorHistory [(dht, 10000)] markThenPass
    (fun system => decide (notOvertaken system) &&
      (sensorStep system .commitPass).any (fun (next : SensorSystem) =>
        decide (next.registry.sensors.map SensorMeta.alive = [true]) &&
          decide (next.clockMs < 2 ^ 32))) (by decide)
  simp only [Bool.and_eq_true, decide_eq_true_eq] at ready
  obtain ⟨clear, checked⟩ := ready
  cases taken : sensorStep system .commitPass with
  | none => simp [taken] at checked
  | some next =>
      simp only [taken, Option.any_some, Bool.and_eq_true, decide_eq_true_eq] at checked
      have law := pass_noFalseDead_iff _ _ _ (run.snoc taken) checked.2 _ _ _ _ rfl taken
      exact ⟨system, next, taken, checked.1, law.2.mpr clear⟩

def markOvertakesPass : List SensorAction :=
  [.tick 5000, .readMark dht, .commitMark 0, .tick 900, .readPass, .tick 1, .readMark dht,
    .commitMark 0]

theorem overtaken_pass_reports_dead :
    ¬ ∀ entries trace final, SensorHistory entries trace final → final.clockMs < 2 ^ 32 →
      ∀ front system next back, trace = front ++ (system, .commitPass) :: back →
        sensorStep system .commitPass = some next → noFalseDead front system next := by
  intro free
  obtain ⟨system, run, ready⟩ := exists_sensorHistory [(dht, 10000)] markOvertakesPass
    (fun system => !decide (notOvertaken system) &&
      (sensorStep system .commitPass).any (fun (next : SensorSystem) =>
        decide (next.clockMs < 2 ^ 32)))
    (by decide)
  simp only [Bool.and_eq_true, Bool.not_eq_true', decide_eq_false_iff_not] at ready
  obtain ⟨overtaken, commits⟩ := ready
  cases taken : sensorStep system .commitPass with
  | none => simp [taken] at commits
  | some next =>
      have short : next.clockMs < 2 ^ 32 := by simpa [taken] using commits
      have whole := run.snoc taken
      exact overtaken (notOvertaken_of_noFalseDead (stampsRead_before whole rfl)
        (bounded_before whole short rfl) taken (free _ _ _ whole short _ _ _ _ rfl taken))

end HydroGovernor
