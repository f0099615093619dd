import HydroGovernor.Library.Transition
import HydroGovernor.Sensors

/-! What the alive flags mean over runs of any length, with each mark and each health pass in
one piece. -/

namespace HydroGovernor

open Firmware

/-- The uptime in milliseconds, the registry and the events of the last pass. -/
structure HealthSystem where
  clockMs : Nat
  registry : Registry
  events : List HealthEvent
  deriving DecidableEq, Repr

inductive HealthAction where
  | tick (ms : Nat)
  | mark (name : CString)
  | pass
  deriving DecidableEq, Repr

def HealthSystem.boot (entries : List (CString × UInt32)) : HealthSystem :=
  ⟨0, registered entries, []⟩

def healthStep (system : HealthSystem) : HealthAction → Option HealthSystem
  | .tick ms => some { system with clockMs := system.clockMs + ms }
  | .mark name =>
      some { system with registry := system.registry.mark name (nowMs system.clockMs) }
  | .pass =>
      some { system with
        registry := system.registry.checkHealth (nowMs system.clockMs)
        events := system.registry.healthEvents (nowMs system.clockMs) }

abbrev HealthHistory (entries : List (CString × UInt32))
    (trace : List (HealthSystem × HealthAction)) (system : HealthSystem) : Prop :=
  Transition.Run healthStep (HealthSystem.boot entries) trace system

def Registry.named (registry : Registry) (name : CString) : Option Nat :=
  registry.sensors.findIdx? (fun s => decide (s.name = name))

def lastMark (index : Nat) (trace : List (HealthSystem × HealthAction)) : Option Nat :=
  trace.foldl (fun last taken =>
    match taken.2 with
    | .mark name => if taken.1.registry.named name = some index then some taken.1.clockMs else last
    | _ => last) none

theorem lastMark_snoc (index : Nat) (trace : List (HealthSystem × HealthAction))
    (system : HealthSystem) (action : HealthAction) :
    lastMark index (trace ++ [(system, action)]) =
      match action with
      | .mark name =>
          if system.registry.named name = some index then some system.clockMs
          else lastMark index trace
      | _ => lastMark index trace := by
  rw [lastMark, List.foldl_append]
  rfl

theorem markFirst_getElem? (name : CString) (t : UInt32) (sensors : List SensorMeta)
    (index : Nat) :
    (markFirst name t sensors)[index]? =
      if sensors.findIdx? (fun s => decide (s.name = name)) = some index then
        sensors[index]?.map (fun s => { s with lastSeenMs := t, active := true })
      else sensors[index]? := by
  induction sensors generalizing index with
  | nil => simp [markFirst]
  | cons s rest ih =>
      by_cases named : s.name = name
      · cases index with
        | zero => simp [markFirst, named, List.findIdx?_cons]
        | succ later => simp [markFirst, named, List.findIdx?_cons]
      · cases index with
        | zero => simp [markFirst, named, List.findIdx?_cons]
        | succ later =>
            simp only [markFirst, named, if_false, List.getElem?_cons_succ, ih later,
              List.findIdx?_cons, decide_false]
            simp

/-- A registered sensor is inactive until its first mark, and from then on holds the stamp of
its last one. -/
def Stamped (index : Nat) (trace : List (HealthSystem × HealthAction)) (system : HealthSystem)
    (s : SensorMeta) : Prop :=
  match lastMark index trace with
  | none => s.active = false
  | some seen => s.active = true ∧ s.lastSeenMs = nowMs seen ∧ seen ≤ system.clockMs

def AllStamped (trace : List (HealthSystem × HealthAction)) (system : HealthSystem) : Prop :=
  ∀ index s, system.registry.sensors[index]? = some s → Stamped index trace system s

theorem allStamped_boot (entries : List (CString × UInt32)) :
    AllStamped [] (HealthSystem.boot entries) := by
  intro index s stored
  exact registered_inactive entries s (List.mem_of_getElem? stored)

theorem Stamped.unmarked {index : Nat} {trace : List (HealthSystem × HealthAction)}
    {system next : HealthSystem} {action : HealthAction} {s after : SensorMeta}
    (before : Stamped index trace system s)
    (same : lastMark index (trace ++ [(system, action)]) = lastMark index trace)
    (active : after.active = s.active) (stamp : after.lastSeenMs = s.lastSeenMs)
    (later : system.clockMs ≤ next.clockMs) :
    Stamped index (trace ++ [(system, action)]) next after := by
  unfold Stamped at before ⊢
  rw [same, active, stamp]
  cases last : lastMark index trace with
  | none =>
      rw [last] at before
      exact before
  | some seen =>
      rw [last] at before
      exact ⟨before.1, before.2.1, Nat.le_trans before.2.2 later⟩

theorem allStamped_step {trace : List (HealthSystem × HealthAction)}
    {system next : HealthSystem} {action : HealthAction} (before : AllStamped trace system)
    (taken : healthStep system action = some next) :
    AllStamped (trace ++ [(system, action)]) next := by
  intro index s stored
  cases action with
  | tick ms =>
      cases taken
      apply (before index s stored).unmarked (lastMark_snoc _ _ _ _) rfl rfl
      exact Nat.le_add_right _ _
  | mark name =>
      cases taken
      have marked := lastMark_snoc index trace system (.mark name)
      dsimp only at marked
      rw [Registry.mark, markFirst_getElem?] at stored
      by_cases reached : system.registry.named name = some index
      · rw [if_pos reached] at marked
        rw [Registry.named] at reached
        rw [if_pos reached] at stored
        obtain ⟨old, -, rfl⟩ := Option.map_eq_some_iff.mp stored
        unfold Stamped
        rw [marked]
        exact ⟨rfl, rfl, le_refl _⟩
      · rw [if_neg reached] at marked
        rw [Registry.named] at reached
        rw [if_neg reached] at stored
        exact (before index s stored).unmarked marked rfl rfl (le_refl _)
  | pass =>
      cases taken
      rw [Registry.checkHealth_sensors, List.getElem?_map] at stored
      obtain ⟨old, found, rfl⟩ := Option.map_eq_some_iff.mp stored
      exact (before index old found).unmarked (lastMark_snoc _ _ _ _) rfl rfl (le_refl _)

theorem allStamped_before {entries : List (CString × UInt32)}
    {trace front back : List (HealthSystem × HealthAction)} {final system : HealthSystem}
    {action : HealthAction} (run : HealthHistory entries trace final)
    (split : trace = front ++ (system, action) :: back) : AllStamped front system :=
  run.invariant_before AllStamped (fun _ _ => True) (allStamped_boot entries)
    (fun _ _ _ _ _ before _ taken => allStamped_step before taken) (fun _ _ => trivial) split

/-- The sensor has been marked, and less than its timeout ago. -/
def heardFrom (front : List (HealthSystem × HealthAction)) (system : HealthSystem) (index : Nat)
    (timeoutMs : UInt32) : Prop :=
  ∃ seen, lastMark index front = some seen ∧ system.clockMs - seen < timeoutMs.toNat

/-- After the pass a sensor is alive exactly when it was heard from, and one that was not is
reported as nothing but dead. -/
def truthfulPass (front : List (HealthSystem × HealthAction)) (system next : HealthSystem) :
    Prop :=
  ∀ index s, next.registry.sensors[index]? = some s →
    (s.alive = true ↔ heardFrom front system index s.timeoutMs) ∧
      (¬ heardFrom front system index s.timeoutMs →
        ∀ event, s.event = some event → event.dead = true)

/-- No marked sensor has been silent for its timeout or longer and, up to whole wraps of the
32-bit counter, for less than its timeout. -/
def noneWrapped (front : List (HealthSystem × HealthAction)) (system : HealthSystem) : Prop :=
  ∀ index s, system.registry.sensors[index]? = some s →
    ∀ seen, lastMark index front = some seen → s.timeoutMs.toNat ≤ system.clockMs - seen →
      s.timeoutMs.toNat ≤ (system.clockMs - seen) % 2 ^ 32

theorem Stamped.check_alive_iff {index : Nat} {front : List (HealthSystem × HealthAction)}
    {system : HealthSystem} {s : SensorMeta} (stamped : Stamped index front system s) :
    (s.check (nowMs system.clockMs)).alive = true ↔
      ∃ seen, lastMark index front = some seen ∧
        (system.clockMs - seen) % 2 ^ 32 < s.timeoutMs.toNat := by
  unfold Stamped at stamped
  cases last : lastMark index front with
  | none =>
      rw [last] at stamped
      simp [SensorMeta.check, stamped]
  | some seen =>
      rw [last] at stamped
      obtain ⟨active, stamp, earlier⟩ := stamped
      have age := age_of_stamps_lt_iff earlier s.timeoutMs
      simp [SensorMeta.check, active, stamp, nowMs, age]

theorem SensorMeta.event_of_dead {s : SensorMeta} (dead : s.alive = false) {event : HealthEvent}
    (reported : s.event = some event) : event.dead = true := by
  simp only [SensorMeta.event, dead] at reported
  cases reported
  rfl

/-- A pass over sensors with known stamps is truthful exactly when none has wrapped. -/
theorem truthfulPass_iff {front : List (HealthSystem × HealthAction)}
    {system next : HealthSystem} (stamped : AllStamped front system)
    (taken : healthStep system .pass = some next) :
    truthfulPass front system next ↔ noneWrapped front system := by
  cases taken
  constructor
  · intro truthful index s stored seen last silent
    by_contra short
    have found : (system.registry.checkHealth (nowMs system.clockMs)).sensors[index]? =
        some (s.check (nowMs system.clockMs)) := by
      rw [Registry.checkHealth_sensors, List.getElem?_map, stored]
      rfl
    have alive : (s.check (nowMs system.clockMs)).alive = true :=
      (stamped index s stored).check_alive_iff.mpr ⟨seen, last, Nat.lt_of_not_le short⟩
    obtain ⟨marked, lately, recent⟩ := (truthful index _ found).1.mp alive
    cases last.symm.trans lately
    exact absurd recent (Nat.not_lt.mpr silent)
  · intro apart index checked stored
    rw [Registry.checkHealth_sensors, List.getElem?_map] at stored
    obtain ⟨s, found, rfl⟩ := Option.map_eq_some_iff.mp stored
    have verdict : (s.check (nowMs system.clockMs)).alive = true ↔
        heardFrom front system index s.timeoutMs := by
      rw [(stamped index s found).check_alive_iff]
      apply exists_congr
      intro seen
      apply and_congr_right
      intro last
      constructor
      · intro below
        by_contra silent
        exact absurd below (Nat.not_lt.mpr (apart index s found seen last (Nat.not_lt.mp silent)))
      · exact Nat.lt_of_le_of_lt (Nat.mod_le _ _)
    refine ⟨verdict, fun unheard event reported => ?_⟩
    apply SensorMeta.event_of_dead _ reported
    rw [← Bool.not_eq_true]
    exact fun alive => unheard (verdict.mp alive)

/-- In every run, each health pass is truthful exactly when no silence has wrapped around. -/
theorem healthPass_truthful_iff (entries : List (CString × UInt32))
    (trace : List (HealthSystem × HealthAction)) (final : HealthSystem)
    (run : HealthHistory entries trace final) :
    ∀ front system next back, trace = front ++ (system, .pass) :: back →
      healthStep system .pass = some next →
      next.events = next.registry.sensors.filterMap SensorMeta.event ∧
        (truthfulPass front system next ↔ noneWrapped front system) := by
  intro front system next back split taken
  refine ⟨?_, truthfulPass_iff (allStamped_before run split) taken⟩
  cases taken
  exact Registry.healthEvents_eq _ _

theorem noneWrapped_of_short {system : HealthSystem} (short : system.clockMs < 2 ^ 32)
    (front : List (HealthSystem × HealthAction)) : noneWrapped front system := by
  intro index s _ seen _ silent
  rwa [Nat.mod_eq_of_lt (Nat.lt_of_le_of_lt (Nat.sub_le _ _) short)]

theorem exists_healthHistory (entries : List (CString × UInt32)) (actions : List HealthAction)
    (property : HealthSystem → Bool)
    (executed : (Transition.exec healthStep (HealthSystem.boot entries) actions).any property =
      true) :
    ∃ final, HealthHistory entries
      (Transition.execTrace healthStep (HealthSystem.boot entries) actions) final ∧
        property final = true :=
  Transition.exists_run_of_exec actions property executed

theorem heard_sensor_alive :
    ∃ front system next, healthStep system .pass = some next ∧
      next.registry.sensors.map SensorMeta.alive = [true] ∧ truthfulPass front system next := by
  obtain ⟨system, run, ready⟩ := exists_healthHistory [(dht, 10000)]
    [.tick 5000, .mark dht, .tick 900] (fun system => decide (system.clockMs < 2 ^ 32) &&
      decide ((system.registry.checkHealth (nowMs system.clockMs)).sensors.map SensorMeta.alive =
        [true])) (by decide)
  simp only [Bool.and_eq_true, decide_eq_true_eq] at ready
  have law := healthPass_truthful_iff _ _ _ (run.snoc rfl) _ system _ [] rfl rfl
  exact ⟨_, system, _, rfl, ready.2, law.2.mpr (noneWrapped_of_short ready.1 _)⟩

def silentForever : List HealthAction := [.tick 5000, .mark dht, .tick (2 ^ 32)]

/-- The pass after it finds the sensor alive. -/
theorem silent_sensor_alive_after_wrap :
    ¬ ∀ entries trace final, HealthHistory entries trace final →
      ∀ front system next back, trace = front ++ (system, .pass) :: back →
        healthStep system .pass = some next → truthfulPass front system next := by
  intro truthful
  obtain ⟨system, run, ready⟩ := exists_healthHistory [(dht, 10000)] silentForever
    (fun system => decide (5000 + 10000 ≤ system.clockMs) && decide
      ((system.registry.checkHealth (nowMs system.clockMs)).sensors[0]?.map
        (fun (s : SensorMeta) => (s.alive, s.timeoutMs)) = some (true, 10000))) (by decide)
  simp only [Bool.and_eq_true, decide_eq_true_eq] at ready
  obtain ⟨silent, found⟩ := ready
  obtain ⟨s, stored, is⟩ := Option.map_eq_some_iff.mp found
  obtain ⟨alive, timeout⟩ := Prod.mk.inj is
  have verdict := truthful _ _ _ (run.snoc rfl) _ system _ [] rfl rfl 0 s stored
  obtain ⟨seen, last, recent⟩ := verdict.1.mp alive
  have marked : lastMark 0 (Transition.execTrace healthStep (HealthSystem.boot [(dht, 10000)])
      silentForever) = some 5000 := by decide
  cases marked.symm.trans last
  rw [timeout] at recent
  exact absurd recent (Nat.not_lt.mpr (Nat.le_sub_of_add_le' silent))

end HydroGovernor
