import HydroGovernor.PushTask

/-! What sensor_update_health says of a sensor over runs of any length: the lines that it passes
to enqueue_log after each pass, and its notification. -/

namespace HydroGovernor

open Firmware

/-! The lines -/

def deadLine (name : CString) : CString where
  bytes := ascii "[ALERT] Sensor '" ++ name.bytes ++ ascii "' DEAD"
  noNul := by
    rw [List.all_append, List.all_append, name.noNul]
    decide

def recoveredLine (name : CString) : CString where
  bytes := ascii "[INFO]  Sensor '" ++ name.bytes ++ ascii "' RECOVERED"
  noNul := by
    rw [List.all_append, List.all_append, name.noNul]
    decide

/-- The text that snprintf leaves in `char msg[64]`. -/
def healthMsg (event : HealthEvent) : CString :=
  (if event.dead then deadLine event.name else recoveredLine event.name).take 63

/-- What a line of the health engine says of a sensor. -/
inductive Verdict where
  | dead
  | recovered
  deriving DecidableEq, Repr

def Verdict.line : Verdict → CString → CString
  | .dead => deadLine
  | .recovered => recoveredLine

/-- What a pass has to say of a sensor that was alive after the pass before, or was not. -/
def passVerdict (was alive : Bool) : Option Verdict :=
  if alive then if was then none else some .recovered else some .dead

theorem passVerdict_dead {was alive : Bool} :
    passVerdict was alive = some .dead ↔ alive = false := by
  cases alive <;> cases was <;> decide

theorem passVerdict_recovered {was alive : Bool} :
    passVerdict was alive = some .recovered ↔ alive = true ∧ was = false := by
  cases alive <;> cases was <;> decide

/-- What this line says of the sensor of this name. -/
def verdict (name line : CString) : Option Verdict :=
  if line = deadLine name then some .dead
  else if line = recoveredLine name then some .recovered
  else none

theorem deadLine_ne (name other : CString) : deadLine name ≠ recoveredLine other := by
  intro same
  have bytes := congrArg CString.bytes same
  simp only [deadLine, recoveredLine, List.append_assoc] at bytes
  have heads := (List.append_inj bytes (by decide)).1
  exact absurd heads (by decide)

theorem Verdict.line_inj (first second : Verdict) {name other : CString}
    (same : first.line name = second.line other) : first = second ∧ name = other := by
  cases first with
  | dead =>
      cases second with
      | dead =>
          have bytes := List.append_cancel_right (congrArg CString.bytes same)
          exact ⟨rfl, CString.ext (List.append_cancel_left bytes)⟩
      | recovered => exact absurd same (deadLine_ne name other)
  | recovered =>
      cases second with
      | dead => exact absurd same.symm (deadLine_ne other name)
      | recovered =>
          have bytes := List.append_cancel_right (congrArg CString.bytes same)
          exact ⟨rfl, CString.ext (List.append_cancel_left bytes)⟩

theorem verdict_eq_some {name line : CString} {said : Verdict} :
    verdict name line = some said ↔ line = said.line name := by
  unfold verdict
  constructor
  · intro is
    split at is
    · rename_i same
      cases is
      exact same
    · split at is
      · rename_i same
        cases is
        exact same
      · cases is
  · rintro rfl
    cases said with
    | dead => exact if_pos rfl
    | recovered => exact (if_neg (deadLine_ne name name).symm).trans (if_pos rfl)

theorem verdict_line (said : Verdict) (name other : CString) :
    verdict name (said.line other) = if other = name then some said else none := by
  split
  · rename_i named
    rw [verdict_eq_some, named]
  · rename_i named
    apply Option.eq_none_iff_forall_ne_some.mpr
    intro other_said is
    exact named (Verdict.line_inj said other_said (verdict_eq_some.mp is)).2

theorem healthMsg_line {event : HealthEvent} (short : event.name.length ≤ 15) :
    healthMsg event = if event.dead then deadLine event.name else recoveredLine event.name := by
  apply CString.take_of_length_le
  simp only [CString.length] at short ⊢
  split
  · simp only [deadLine, List.length_append, show (ascii "[ALERT] Sensor '").length = 16 by rfl,
      show (ascii "' DEAD").length = 6 by rfl]
    omega
  · simp only [recoveredLine, List.length_append,
      show (ascii "[INFO]  Sensor '").length = 16 by rfl,
      show (ascii "' RECOVERED").length = 11 by rfl]
    omega

theorem SensorMeta.event_recovers (s : SensorMeta) :
    (∃ event, s.event = some event ∧ event.dead = false) ↔
      s.alive = true ∧ s.prevAlive = false := by
  cases alive : s.alive <;> cases was : s.prevAlive <;> simp [SensorMeta.event, alive, was]

theorem SensorMeta.event_msg {s : SensorMeta} (short : s.name.length ≤ 15) :
    s.event.map healthMsg =
      (passVerdict s.prevAlive s.alive).map (fun said => said.line s.name) := by
  have msg : ∀ dead transition : Bool, healthMsg ⟨dead, transition, s.name.take 15⟩ =
      if dead then deadLine s.name else recoveredLine s.name := by
    intro dead transition
    rw [CString.take_of_length_le short]
    exact healthMsg_line short
  cases alive : s.alive with
  | false => simp [SensorMeta.event, passVerdict, Verdict.line, alive, msg]
  | true =>
      cases was : s.prevAlive with
      | false => simp [SensorMeta.event, passVerdict, Verdict.line, was, alive, msg]
      | true => simp [SensorMeta.event, passVerdict, was, alive]

/-! The task -/

/-- The events that sensor_update_health has still to pass on, and its `notify`. -/
structure Reporting where
  events : List HealthEvent
  notify : Bool
  deriving DecidableEq, Repr

/-- `reporting` is set between the mutex section of a pass and its end, `log` is what went to
enqueue_log, and `given` counts the notifications. -/
structure ReportSystem where
  registry : Registry
  handle : Bool
  reporting : Option Reporting
  log : List CString
  given : Nat
  deriving DecidableEq, Repr

def ReportSystem.boot (entries : List (CString × UInt32)) : ReportSystem :=
  ⟨registered entries, false, none, [], 0⟩

/-- `t` is what now_ms gave before the mutex was taken. -/
inductive ReportAction where
  | createPush
  | mark (name : CString) (t : UInt32)
  | pass (t : UInt32)
  | report
  deriving DecidableEq, Repr

/-- The next turn of the second loop of sensor_update_health, or what follows it. -/
def ReportSystem.report (system : ReportSystem) (reporting : Reporting) : ReportSystem :=
  match reporting.events with
  | event :: events =>
      { system with
        log := system.log ++ [healthMsg event]
        reporting := some ⟨events, reporting.notify || !event.dead⟩ }
  | [] =>
      { system with
        given := if reporting.notify && system.handle then system.given + 1 else system.given
        reporting := none }

/-- One task runs sensor_update_health, so a pass starts after the end of the one before. -/
def reportStep (system : ReportSystem) : ReportAction → Option ReportSystem
  | .createPush => if system.handle then none else some { system with handle := true }
  | .mark name t => some { system with registry := system.registry.mark name t }
  | .pass t =>
      match system.reporting with
      | some _ => none
      | none =>
          some { system with
            registry := system.registry.checkHealth t
            reporting := some ⟨system.registry.healthEvents t, false⟩ }
  | .report => system.reporting.map system.report

abbrev ReportHistory (entries : List (CString × UInt32))
    (trace : List (ReportSystem × ReportAction)) (system : ReportSystem) : Prop :=
  Transition.Run reportStep (ReportSystem.boot entries) trace system

/-- Whether the last pass of the trace left the sensor alive. -/
def aliveAfterPasses (name : CString) (trace : List (ReportSystem × ReportAction)) : Bool :=
  trace.foldl (fun alive taken =>
    match taken.2 with
    | .pass t => decide ((name, true) ∈ (taken.1.registry.checkHealth t).flags)
    | _ => alive) false

/-- A line for each sensor of `checked` that has a verdict, `front` being the trace before the
pass. -/
def passLines (front : List (ReportSystem × ReportAction)) (checked : List SensorMeta) :
    List CString :=
  checked.filterMap (fun s =>
    (passVerdict (aliveAfterPasses s.name front) s.alive).map (fun said => said.line s.name))

/-- A pass of a trace, from its mutex section in `before` to the step out of `last` that ends
it. -/
structure FinishedPass (trace : List (ReportSystem × ReportAction)) where
  front : List (ReportSystem × ReportAction)
  before : ReportSystem
  t : UInt32
  middle : List (ReportSystem × ReportAction)
  last : ReportSystem
  back : List (ReportSystem × ReportAction)
  after : ReportSystem
  split : trace = front ++ (before, .pass t) :: (middle ++ (last, .report) :: back)
  same : ∀ taken ∈ middle, ∀ t, taken.2 ≠ .pass t
  ends : reportStep last .report = some after
  idle : after.reporting = none

def FinishedPass.checked {trace : List (ReportSystem × ReportAction)}
    (pass : FinishedPass trace) : List SensorMeta :=
  (pass.before.registry.checkHealth pass.t).sensors

/-- The lines that the history calls for after the pass. -/
def FinishedPass.lines {trace : List (ReportSystem × ReportAction)}
    (pass : FinishedPass trace) : List CString :=
  passLines pass.front pass.checked

/-- What the pass has reported, sensor by sensor, and whether it has notified push_task. -/
structure PassReports (entries : List (CString × UInt32))
    {trace : List (ReportSystem × ReportAction)} (pass : FinishedPass trace) : Prop where
  order : pass.checked.map SensorMeta.name = (registered entries).sensors.map SensorMeta.name
  reported : pass.after.log = pass.before.log ++ pass.lines
  once : ∀ s ∈ pass.checked, (pass.lines.filterMap (verdict s.name)).length ≤ 1
  dead : ∀ s ∈ pass.checked, deadLine s.name ∈ pass.lines ↔ s.alive = false
  recovered : ∀ s ∈ pass.checked, recoveredLine s.name ∈ pass.lines ↔
    s.alive = true ∧ aliveAfterPasses s.name pass.front = false
  notified : pass.after.given = pass.before.given +
    if pass.last.handle = true ∧ ∃ s ∈ pass.checked, recoveredLine s.name ∈ pass.lines then 1
    else 0

/-! Names and flags -/

theorem Registry.flags_names (registry : Registry) :
    registry.flags.map Prod.fst = registry.sensors.map SensorMeta.name := by
  rw [Registry.flags, List.map_map]
  rfl

theorem checkHealth_names (registry : Registry) (t : UInt32) :
    (registry.checkHealth t).sensors.map SensorMeta.name =
      registry.sensors.map SensorMeta.name := by
  rw [Registry.checkHealth_sensors, List.map_map]
  rfl

theorem Registry.flag_iff {registry : Registry}
    (distinct : (registry.sensors.map SensorMeta.name).Nodup) {flag : CString × Bool}
    (member : flag ∈ registry.flags) : (flag.1, true) ∈ registry.flags ↔ flag.2 = true := by
  rw [← Registry.flags_names] at distinct
  constructor
  · intro alive
    have same := List.inj_on_of_nodup_map distinct member alive rfl
    exact congrArg Prod.snd same
  · intro alive
    rw [← alive]
    exact member

theorem aliveAfterPasses_snoc (name : CString) (trace : List (ReportSystem × ReportAction))
    (system : ReportSystem) (action : ReportAction) :
    aliveAfterPasses name (trace ++ [(system, action)]) =
      match action with
      | .pass t => decide ((name, true) ∈ (system.registry.checkHealth t).flags)
      | _ => aliveAfterPasses name trace := by
  rw [aliveAfterPasses, List.foldl_append]
  rfl

/-! Verdicts in turn -/

/-- After a recovery comes a death, and the last verdict was a recovery just when the sensor is
alive. -/
structure Alternating (alive : Bool) (verdicts : List Verdict) : Prop where
  chain : verdicts.IsChain (fun first second => first = .recovered → second = .dead)
  last : verdicts.getLast? = some .recovered ↔ alive = true

theorem Alternating.pass {was : Bool} {verdicts : List Verdict} (before : Alternating was verdicts)
    (alive : Bool) : Alternating alive (verdicts ++ (passVerdict was alive).toList) := by
  cases alive with
  | true =>
      cases was with
      | true => simpa [passVerdict] using before
      | false =>
          refine ⟨before.chain.append (List.isChain_singleton _) ?_, by simp [passVerdict]⟩
          rintro first isLast second - recovered
          subst recovered
          exact absurd (before.last.mp isLast) (by decide)
  | false =>
      refine ⟨before.chain.append (List.isChain_singleton _) ?_, by simp [passVerdict]⟩
      rintro first - second isHead -
      exact (Option.some.inj isHead).symm

theorem Alternating.between {alive : Bool} {verdicts front middle back : List Verdict}
    (turns : Alternating alive verdicts)
    (split : verdicts = front ++ .recovered :: (middle ++ .recovered :: back)) :
    .dead ∈ middle := by
  have chain := turns.chain
  rw [split] at chain
  have next := (List.isChain_cons.mp chain.right_of_append).1
  cases middle with
  | nil => cases next .recovered rfl rfl
  | cons said rest =>
      rw [next said rfl rfl]
      exact List.mem_cons_self

/-! The lines of one pass -/

theorem filterMap_distinct {Item Key Result : Type} {key : Item → Key} {items : List Item}
    {item : Item} {f : Item → Option Result} (distinct : (items.map key).Nodup)
    (member : item ∈ items) (others : ∀ other ∈ items, key other ≠ key item → f other = none) :
    items.filterMap f = (f item).toList := by
  obtain ⟨front, back, rfl⟩ := List.append_of_mem member
  rw [List.map_append, List.map_cons, List.nodup_middle, List.nodup_cons, List.mem_append]
    at distinct
  have before : front.filterMap f = [] := by
    rw [List.filterMap_eq_nil_iff]
    intro other inFront
    apply others other (List.mem_append_left _ inFront)
    intro same
    exact distinct.1 (.inl (same ▸ List.mem_map_of_mem inFront))
  have after : back.filterMap f = [] := by
    rw [List.filterMap_eq_nil_iff]
    intro other inBack
    apply others other (List.mem_append_right _ (List.mem_cons_of_mem _ inBack))
    intro same
    exact distinct.1 (.inr (same ▸ List.mem_map_of_mem inBack))
  rw [List.filterMap_append, before, List.nil_append]
  cases result : f item with
  | none => rw [List.filterMap_cons_none result, after, Option.toList_none]
  | some value => rw [List.filterMap_cons_some result, after, Option.toList_some]

theorem passLines_verdicts (front : List (ReportSystem × ReportAction))
    {checked : List SensorMeta} (distinct : (checked.map SensorMeta.name).Nodup) {s : SensorMeta}
    (member : s ∈ checked) :
    (passLines front checked).filterMap (verdict s.name) =
      (passVerdict (aliveAfterPasses s.name front) s.alive).toList := by
  have said : ∀ other : SensorMeta,
      (((passVerdict (aliveAfterPasses other.name front) other.alive).map
        (fun said => said.line other.name)).bind (verdict s.name)) =
      if other.name = s.name then passVerdict (aliveAfterPasses other.name front) other.alive
      else none := by
    intro other
    cases passVerdict (aliveAfterPasses other.name front) other.alive with
    | none => simp
    | some said => simp [verdict_line]
  rw [passLines, List.filterMap_filterMap]
  simp only [said]
  rw [filterMap_distinct distinct member, if_pos rfl]
  intro other _ named
  exact if_neg named

theorem line_mem_passLines (front : List (ReportSystem × ReportAction))
    {checked : List SensorMeta} (distinct : (checked.map SensorMeta.name).Nodup) {s : SensorMeta}
    (member : s ∈ checked) (said : Verdict) :
    said.line s.name ∈ passLines front checked ↔
      passVerdict (aliveAfterPasses s.name front) s.alive = some said := by
  have verdicts := passLines_verdicts front distinct member
  calc
    said.line s.name ∈ passLines front checked ↔
        said ∈ (passLines front checked).filterMap (verdict s.name) := by
      simp only [List.mem_filterMap, verdict_eq_some, exists_eq_right]
    _ ↔ said ∈ (passVerdict (aliveAfterPasses s.name front) s.alive).toList := by rw [verdicts]
    _ ↔ passVerdict (aliveAfterPasses s.name front) s.alive = some said := Option.mem_toList

/-! Runs -/

/-- What has gone to enqueue_log and what is still to go there. -/
def ReportSystem.lines (system : ReportSystem) : List CString :=
  match system.reporting with
  | some reporting => system.log ++ reporting.events.map healthMsg
  | none => system.log

def ReportSystem.recovering (system : ReportSystem) : Bool :=
  match system.reporting with
  | some reporting => reporting.notify || reporting.events.any (fun event => !event.dead)
  | none => false

structure ReportInv (entries : List (CString × UInt32))
    (trace : List (ReportSystem × ReportAction)) (system : ReportSystem) : Prop where
  names : system.registry.sensors.map SensorMeta.name =
    (registered entries).sensors.map SensorMeta.name
  flags : ∀ flag ∈ system.registry.flags, flag.2 = aliveAfterPasses flag.1 trace
  said : ∀ s ∈ (registered entries).sensors,
    Alternating (aliveAfterPasses s.name trace) (system.lines.filterMap (verdict s.name))

theorem reportInv_boot (entries : List (CString × UInt32)) :
    ReportInv entries [] (ReportSystem.boot entries) where
  names := rfl
  flags flag member := by
    have dead : ∀ s ∈ (registered entries).sensors, s.alive = false :=
      registered_all (fun _ _ => rfl) entries
    obtain ⟨s, stored, rfl⟩ := List.mem_map.mp member
    exact dead s stored
  said _ _ := ⟨List.isChain_nil, by simp [ReportSystem.lines, ReportSystem.boot, aliveAfterPasses]⟩

section

variable {entries : List (CString × UInt32)} {trace : List (ReportSystem × ReportAction)}
  {system next : ReportSystem} {action : ReportAction}

theorem ReportInv.short (inv : ReportInv entries trace system) :
    ∀ s ∈ system.registry.sensors, s.name.length ≤ 15 := by
  intro s member
  have named : s.name ∈ system.registry.sensors.map SensorMeta.name := List.mem_map_of_mem member
  rw [inv.names] at named
  obtain ⟨first, stored, same⟩ := List.mem_map.mp named
  rw [← same]
  exact registered_short entries first stored

theorem ReportInv.was (inv : ReportInv entries trace system) (t : UInt32) :
    ∀ s ∈ (system.registry.checkHealth t).sensors,
      s.prevAlive = aliveAfterPasses s.name trace := by
  intro s member
  rw [Registry.checkHealth_sensors] at member
  obtain ⟨first, stored, rfl⟩ := List.mem_map.mp member
  exact inv.flags (first.name, first.alive) (List.mem_map_of_mem stored)

theorem ReportInv.events_lines (inv : ReportInv entries trace system) (t : UInt32) :
    (system.registry.healthEvents t).map healthMsg =
      passLines trace (system.registry.checkHealth t).sensors := by
  have each : ∀ s ∈ (system.registry.checkHealth t).sensors, s.event.map healthMsg =
      (passVerdict (aliveAfterPasses s.name trace) s.alive).map (fun said => said.line s.name) := by
    intro s member
    have was := inv.was t s member
    rw [Registry.checkHealth_sensors] at member
    obtain ⟨first, stored, rfl⟩ := List.mem_map.mp member
    have short : (first.check t).name.length ≤ 15 := inv.short first stored
    rw [SensorMeta.event_msg short, was]
  calc
    (system.registry.healthEvents t).map healthMsg =
        (system.registry.checkHealth t).sensors.filterMap (fun s => s.event.map healthMsg) := by
      rw [Registry.healthEvents_eq, List.map_filterMap]
    _ = passLines trace (system.registry.checkHealth t).sensors :=
      List.filterMap_congr each

theorem ReportInv.frame (inv : ReportInv entries trace system)
    (notPass : ∀ t, action ≠ .pass t) (flags : next.registry.flags = system.registry.flags)
    (lines : next.lines = system.lines) : ReportInv entries (trace ++ [(system, action)]) next := by
  have history : ∀ name,
      aliveAfterPasses name (trace ++ [(system, action)]) = aliveAfterPasses name trace := by
    intro name
    rw [aliveAfterPasses_snoc]
    cases action with
    | pass t => exact absurd rfl (notPass t)
    | createPush => rfl
    | mark => rfl
    | report => rfl
  refine ⟨?_, ?_, ?_⟩
  · rw [← Registry.flags_names, flags, Registry.flags_names, inv.names]
  · intro flag member
    rw [flags] at member
    rw [history, inv.flags flag member]
  · intro s stored
    rw [history, lines]
    exact inv.said s stored

theorem report_lines (reporting : Reporting) (pending : system.reporting = some reporting) :
    (system.report reporting).lines = system.lines := by
  obtain ⟨events, notify⟩ := reporting
  cases events with
  | nil => simp [ReportSystem.report, ReportSystem.lines, pending]
  | cons event events => simp [ReportSystem.report, ReportSystem.lines, pending]

theorem report_flags (system : ReportSystem) (reporting : Reporting) :
    (system.report reporting).registry.flags = system.registry.flags := by
  unfold ReportSystem.report
  split
  · rfl
  · rfl

/-- The mutex section of a pass. -/
structure PassStarts (system next : ReportSystem) (t : UInt32) : Prop where
  registry : next.registry = system.registry.checkHealth t
  idle : system.lines = system.log
  lines : next.lines = system.log ++ (system.registry.healthEvents t).map healthMsg
  recovering : next.recovering =
    (system.registry.healthEvents t).any (fun event => !event.dead)
  given : next.given = system.given

theorem pass_starts {t : UInt32} (taken : reportStep system (.pass t) = some next) :
    PassStarts system next t := by
  simp only [reportStep] at taken
  split at taken
  · cases taken
  · rename_i idle
    cases taken
    exact ⟨rfl, by rw [ReportSystem.lines, idle], rfl, Bool.false_or _, rfl⟩

theorem reportInv_pass (distinct : ((registered entries).sensors.map SensorMeta.name).Nodup)
    (inv : ReportInv entries trace system) {t : UInt32}
    (taken : reportStep system (.pass t) = some next) :
    ReportInv entries (trace ++ [(system, .pass t)]) next := by
  have starts := pass_starts taken
  have names := (checkHealth_names system.registry t).trans inv.names
  rw [← names] at distinct
  have flags : ∀ flag ∈ (system.registry.checkHealth t).flags,
      flag.2 = aliveAfterPasses flag.1 (trace ++ [(system, .pass t)]) := by
    intro flag member
    rw [aliveAfterPasses_snoc, Bool.eq_iff_iff]
    exact (Registry.flag_iff distinct member).symm.trans decide_eq_true_iff.symm
  refine ⟨?_, ?_, ?_⟩
  · rw [starts.registry]
    exact names
  · rw [starts.registry]
    exact flags
  · intro s stored
    have named : s.name ∈ (system.registry.checkHealth t).sensors.map SensorMeta.name := by
      rw [names]
      exact List.mem_map_of_mem stored
    obtain ⟨checked, member, same⟩ := List.mem_map.mp named
    have alive := flags (checked.name, checked.alive) (List.mem_map_of_mem member)
    have before := inv.said s stored
    rw [← same] at before ⊢
    rw [← alive, starts.lines, inv.events_lines, List.filterMap_append,
      passLines_verdicts trace distinct member, ← starts.idle]
    exact before.pass checked.alive

theorem reportInv_step (distinct : ((registered entries).sensors.map SensorMeta.name).Nodup)
    (inv : ReportInv entries trace system) (taken : reportStep system action = some next) :
    ReportInv entries (trace ++ [(system, action)]) next := by
  cases action with
  | pass t => exact reportInv_pass distinct inv taken
  | createPush =>
      simp only [reportStep] at taken
      split at taken <;> cases taken
      exact inv.frame (by simp) rfl rfl
  | mark name t =>
      cases taken
      exact inv.frame (by simp) (mark_flags system.registry name t) rfl
  | report =>
      obtain ⟨reporting, pending, rfl⟩ := Option.map_eq_some_iff.mp taken
      exact inv.frame (by simp) (report_flags system reporting) (report_lines reporting pending)

theorem ReportInv.recovering (distinct : ((registered entries).sensors.map SensorMeta.name).Nodup)
    (inv : ReportInv entries trace system) (t : UInt32) :
    (system.registry.healthEvents t).any (fun event => !event.dead) = true ↔
      ∃ s ∈ (system.registry.checkHealth t).sensors,
        recoveredLine s.name ∈ passLines trace (system.registry.checkHealth t).sensors := by
  have names := (checkHealth_names system.registry t).trans inv.names
  rw [← names] at distinct
  have each : ∀ s ∈ (system.registry.checkHealth t).sensors,
      (∃ event, s.event = some event ∧ event.dead = false) ↔
        recoveredLine s.name ∈ passLines trace (system.registry.checkHealth t).sensors := by
    intro s member
    have line := line_mem_passLines trace distinct member .recovered
    rw [passVerdict_recovered, ← inv.was t s member] at line
    exact (SensorMeta.event_recovers s).trans line.symm
  simp only [Registry.healthEvents_eq, List.any_eq_true, List.mem_filterMap, Bool.not_eq_true']
  constructor
  · rintro ⟨event, ⟨s, member, reported⟩, recovered⟩
    exact ⟨s, member, (each s member).mp ⟨event, reported, recovered⟩⟩
  · rintro ⟨s, member, line⟩
    obtain ⟨event, reported, recovered⟩ := (each s member).mpr line
    exact ⟨event, ⟨s, member, reported⟩, recovered⟩

theorem reportInv_run (distinct : ((registered entries).sensors.map SensorMeta.name).Nodup)
    (run : ReportHistory entries trace system) : ReportInv entries trace system :=
  run.invariant (ReportInv entries) (fun _ _ => True) (reportInv_boot entries)
    (fun _ _ _ _ _ inv _ taken => reportInv_step distinct inv taken) (fun _ _ => trivial)

end

/-! From the mutex section to the end of a pass -/

/-- Of what a pass has said and is still to say nothing changes before its end. -/
structure SameReports (first state : ReportSystem) : Prop where
  lines : state.lines = first.lines
  recovering : state.recovering = first.recovering
  given : state.given = first.given

theorem SameReports.refl (system : ReportSystem) : SameReports system system := ⟨rfl, rfl, rfl⟩

theorem SameReports.trans {first middle last : ReportSystem} (front : SameReports first middle)
    (back : SameReports middle last) : SameReports first last where
  lines := back.lines.trans front.lines
  recovering := back.recovering.trans front.recovering
  given := back.given.trans front.given

theorem sameReports_step {system next : ReportSystem} {action : ReportAction}
    (same : ∀ t, action ≠ .pass t) (taken : reportStep system action = some next)
    (underWay : next.reporting ≠ none) :
    system.reporting ≠ none ∧ SameReports system next := by
  cases action with
  | pass t => exact absurd rfl (same t)
  | createPush =>
      simp only [reportStep] at taken
      split at taken <;> cases taken
      exact ⟨underWay, rfl, rfl, rfl⟩
  | mark name t =>
      cases taken
      exact ⟨underWay, rfl, rfl, rfl⟩
  | report =>
      obtain ⟨reporting, pending, rfl⟩ := Option.map_eq_some_iff.mp taken
      refine ⟨by simp [pending], report_lines reporting pending, ?_, ?_⟩
      · obtain ⟨events, notify⟩ := reporting
        cases events with
        | nil => exact absurd rfl underWay
        | cons event events =>
            simp [ReportSystem.recovering, ReportSystem.report, pending, Bool.or_assoc]
      · obtain ⟨events, notify⟩ := reporting
        cases events with
        | nil => exact absurd rfl underWay
        | cons event events => rfl

theorem sameReports_run {first state : ReportSystem} {middle : List (ReportSystem × ReportAction)}
    (run : Transition.Run reportStep first middle state)
    (same : ∀ taken ∈ middle, ∀ t, taken.2 ≠ .pass t) (underWay : state.reporting ≠ none) :
    SameReports first state := by
  induction run with
  | nil => exact SameReports.refl first
  | snoc earlier taken ih =>
      obtain ⟨openBefore, step⟩ :=
        sameReports_step (same _ (List.mem_append_right _ List.mem_cons_self)) taken underWay
      exact (ih (fun pair member => same pair (List.mem_append_left _ member)) openBefore).trans
        step

theorem report_ends {last after : ReportSystem} (taken : reportStep last .report = some after)
    (idle : after.reporting = none) :
    last.reporting ≠ none ∧ after.log = last.lines ∧
      after.given = if last.recovering && last.handle then last.given + 1 else last.given := by
  obtain ⟨⟨events, notify⟩, pending, rfl⟩ := Option.map_eq_some_iff.mp taken
  cases events with
  | cons event events => cases idle
  | nil =>
      simp [ReportSystem.report, ReportSystem.lines, ReportSystem.recovering, pending]

def ReportSystem.reported (system : ReportSystem) : ReportSystem :=
  { system with
    log := system.lines
    given := if system.recovering && system.handle then system.given + 1 else system.given
    reporting := none }

theorem report_all (system : ReportSystem) (reporting : Reporting)
    (pending : system.reporting = some reporting) :
    Transition.exec reportStep system (List.replicate (reporting.events.length + 1) .report) =
      some system.reported := by
  obtain ⟨events, notify⟩ := reporting
  induction events generalizing system notify with
  | nil =>
      simp [Transition.exec, reportStep, pending, ReportSystem.report, ReportSystem.reported,
        ReportSystem.lines, ReportSystem.recovering]
  | cons event events ih =>
      let next := system.report ⟨event :: events, notify⟩
      have later := ih next (notify || !event.dead) rfl
      have same : next.reported = system.reported := by
        simp [next, ReportSystem.report, ReportSystem.reported, ReportSystem.lines,
          ReportSystem.recovering, pending, Bool.or_assoc]
      rw [List.length_cons, List.replicate_succ, Transition.exec]
      simp only [reportStep, pending, Option.map_some]
      exact later.trans (congrArg some same)

theorem healthPieceStep_notified {push : PushSystem} {events : List HealthEvent}
    (pc : push.health = .report events) {system : ReportSystem}
    (pending : system.reporting = some ⟨events, false⟩) (handle : push.handle = system.handle)
    (given : push.notified = system.given) (now : UInt32) :
    (healthPieceStep push now).notified = system.reported.given := by
  have recovering : system.recovering = events.any (fun event => !event.dead) := by
    simp [ReportSystem.recovering, pending]
  have notify : push.notify.notified =
      if system.handle then system.given + 1 else system.given := by
    rw [← handle, ← given, PushSystem.notify]
    split
    · rfl
    · rfl
  rw [healthPieceStep, pc, ReportSystem.reported, recovering]
  dsimp only
  cases events.any (fun event => !event.dead) with
  | false => exact given
  | true => exact notify

theorem passReports {entries : List (CString × UInt32)}
    {trace : List (ReportSystem × ReportAction)} {final : ReportSystem}
    (distinct : ((registered entries).sensors.map SensorMeta.name).Nodup)
    (run : ReportHistory entries trace final) (pass : FinishedPass trace) :
    PassReports entries pass := by
  obtain ⟨first, earlier, taken, later⟩ := run.before pass.split
  have inv := reportInv_run distinct earlier
  have names := (checkHealth_names pass.before.registry pass.t).trans inv.names
  have checked : (pass.checked.map SensorMeta.name).Nodup := by
    rw [FinishedPass.checked, names]
    exact distinct
  obtain ⟨_, between, _, _⟩ := later.before rfl
  obtain ⟨underWay, log, given⟩ := report_ends pass.ends pass.idle
  have continued := sameReports_run between pass.same underWay
  have starts := pass_starts taken
  refine ⟨names, ?_, ?_, ?_, ?_, ?_⟩
  · calc
      pass.after.log = pass.last.lines := log
      _ = first.lines := continued.lines
      _ = pass.before.log ++ (pass.before.registry.healthEvents pass.t).map healthMsg :=
        starts.lines
      _ = pass.before.log ++ pass.lines := by rw [inv.events_lines]; rfl
  · intro s member
    rw [FinishedPass.lines, passLines_verdicts pass.front checked member]
    cases passVerdict (aliveAfterPasses s.name pass.front) s.alive with
    | none => exact Nat.zero_le 1
    | some said => exact Nat.le_refl 1
  · intro s member
    exact (line_mem_passLines pass.front checked member .dead).trans passVerdict_dead
  · intro s member
    exact (line_mem_passLines pass.front checked member .recovered).trans passVerdict_recovered
  · have recovering := inv.recovering distinct pass.t
    rw [← starts.recovering, ← continued.recovering] at recovering
    have notifies : (pass.last.recovering && pass.last.handle) = true ↔
        pass.last.handle = true ∧ ∃ s ∈ pass.checked, recoveredLine s.name ∈ pass.lines := by
      rw [Bool.and_eq_true, and_comm]
      exact and_congr_right' recovering
    rw [given, continued.given, starts.given, if_congr notifies rfl rfl]
    split
    · rfl
    · rfl

/-- The verdicts that the log has on a sensor take turns, in every state. -/
theorem recovered_dead_recovered {entries : List (CString × UInt32)}
    {trace : List (ReportSystem × ReportAction)} {final : ReportSystem}
    (distinct : ((registered entries).sensors.map SensorMeta.name).Nodup)
    (run : ReportHistory entries trace final) {s : SensorMeta}
    (stored : s ∈ (registered entries).sensors) {front middle back : List CString}
    (split : final.log =
      front ++ recoveredLine s.name :: (middle ++ recoveredLine s.name :: back)) :
    deadLine s.name ∈ middle := by
  have inv := reportInv_run distinct run
  obtain ⟨pending, all⟩ : ∃ pending, final.lines = final.log ++ pending := by
    unfold ReportSystem.lines
    split
    · exact ⟨_, rfl⟩
    · exact ⟨[], (List.append_nil _).symm⟩
  have recovered : verdict s.name (recoveredLine s.name) = some .recovered :=
    verdict_eq_some.mpr rfl
  have turns : final.lines.filterMap (verdict s.name) = front.filterMap (verdict s.name) ++
      .recovered :: (middle.filterMap (verdict s.name) ++
        .recovered :: (back ++ pending).filterMap (verdict s.name)) := by
    rw [all, split, List.append_assoc, List.filterMap_append, List.cons_append,
      List.filterMap_cons_some recovered, List.append_assoc, List.filterMap_append,
      List.cons_append, List.filterMap_cons_some recovered]
  obtain ⟨line, member, dead⟩ := List.mem_filterMap.mp ((inv.said s stored).between turns)
  rw [verdict_eq_some] at dead
  subst dead
  exact member

/-- The log follows the history of every sensor, pass by pass. -/
theorem health_reports_follow (entries : List (CString × UInt32))
    (trace : List (ReportSystem × ReportAction)) (final : ReportSystem)
    (distinct : ((registered entries).sensors.map SensorMeta.name).Nodup)
    (run : ReportHistory entries trace final) :
    (∀ pass : FinishedPass trace, PassReports entries pass) ∧
      (∀ s ∈ (registered entries).sensors, ∀ front middle back,
        final.log = front ++ recoveredLine s.name :: (middle ++ recoveredLine s.name :: back) →
          deadLine s.name ∈ middle) ∧
      (∀ reporting, final.reporting = some reporting →
        ∃ after, Transition.exec reportStep final
          (List.replicate (reporting.events.length + 1) .report) = some after ∧
            after.reporting = none) := by
  refine ⟨passReports distinct run, ?_, ?_⟩
  · intro s stored front middle back split
    exact recovered_dead_recovered distinct run stored split
  · intro reporting pending
    exact ⟨final.reported, report_all final reporting pending, rfl⟩

def twoRecoveries : List ReportAction :=
  [.pass 2000, .report, .report, .report, .createPush, .mark dht 2500, .pass 3000, .report,
    .report, .report, .pass 20000, .report, .report, .report, .mark dht 21000, .pass 21500,
    .report, .report, .report]

def twoSensors : List (CString × UInt32) := [(dht, 10000), (flowSensor, 5000)]

def stateAfter (count : Nat) : ReportSystem :=
  (Transition.exec reportStep (ReportSystem.boot twoSensors) (twoRecoveries.take count)).getD
    (ReportSystem.boot twoSensors)

def twoRecoveriesTrace : List (ReportSystem × ReportAction) :=
  Transition.execTrace reportStep (ReportSystem.boot twoSensors) twoRecoveries

def secondPass : FinishedPass twoRecoveriesTrace where
  front := twoRecoveriesTrace.take 6
  before := stateAfter 6
  t := 3000
  middle := [(stateAfter 7, .report), (stateAfter 8, .report)]
  last := stateAfter 9
  back := twoRecoveriesTrace.drop 10
  after := stateAfter 10
  split := by decide +kernel
  same := by simp
  ends := by decide +kernel
  idle := by decide +kernel

theorem two_recoveries_reported :
    PassReports twoSensors secondPass ∧ recoveredLine dht ∈ secondPass.lines ∧
      secondPass.after.given = 1 ∧
      (stateAfter 19).log =
        [deadLine dht, deadLine flowSensor] ++ recoveredLine dht ::
          ([deadLine flowSensor, deadLine dht, deadLine flowSensor] ++
            recoveredLine dht :: [deadLine flowSensor]) ∧
      deadLine dht ∈ [deadLine flowSensor, deadLine dht, deadLine flowSensor] := by
  have run : ReportHistory twoSensors twoRecoveriesTrace (stateAfter 19) :=
    Transition.run_of_exec (by decide +kernel)
  have log : (stateAfter 19).log =
      [deadLine dht, deadLine flowSensor] ++ recoveredLine dht ::
        ([deadLine flowSensor, deadLine dht, deadLine flowSensor] ++
          recoveredLine dht :: [deadLine flowSensor]) := by
    decide +kernel
  have follow := health_reports_follow twoSensors twoRecoveriesTrace (stateAfter 19)
    (by decide +kernel) run
  obtain ⟨s, stored, named⟩ : ∃ s ∈ (registered twoSensors).sensors, s.name = dht := by
    decide +kernel
  have between := follow.2.1 s stored
  rw [named] at between
  exact ⟨follow.1 secondPass, by decide +kernel, by decide +kernel, log, between _ _ _ log⟩

end HydroGovernor
