import HydroGovernor.HealthReports
import HydroGovernor.PushTask

/-! The two producers of main.c: the pulses that flow_isr_handler counts and flow_task takes, and
the readings that dht_task passes on. -/

namespace HydroGovernor

open Firmware
open Firmware.Transition (Run filterMap_snoc exec execTrace run_of_exec)

/-! s_pulse_count -/

/-- Who has entered the critical section of `s_flow_mux`. -/
inductive FlowSide where
  | isr
  | task
  deriving DecidableEq, Repr

/-- Where flow_isr_handler is: `s_pulse_count++` loads the count and stores its successor. -/
inductive IsrPc where
  | idle
  | entering
  | entered
  | loaded (value : UInt32)
  | stored
  deriving DecidableEq, Repr

/-- Where flow_task is. After the critical section it converts its count. -/
inductive CountPc where
  | delayed
  | entering
  | entered
  | loaded (count : UInt32)
  | cleared (count : UInt32)
  | converting (count : UInt32)
  deriving DecidableEq, Repr

structure FlowCounter where
  mux : Option FlowSide
  pulseCount : UInt32
  isr : IsrPc
  task : CountPc
  deriving DecidableEq, Repr

def FlowCounter.boot : FlowCounter := ⟨none, 0, .idle, .delayed⟩

/-- `pulse` is the edge that starts the handler, `wake` the end of vTaskDelay. -/
inductive FlowCounterAction where
  | pulse
  | isr
  | wake
  | task
  deriving DecidableEq, Repr

def isrStep (counter : FlowCounter) : Option FlowCounter :=
  match counter.isr with
  | .idle => none
  | .entering =>
      if counter.mux = none then some { counter with mux := some .isr, isr := .entered } else none
  | .entered => some { counter with isr := .loaded counter.pulseCount }
  | .loaded value => some { counter with pulseCount := value + 1, isr := .stored }
  | .stored => some { counter with mux := none, isr := .idle }

def countStep (counter : FlowCounter) : Option FlowCounter :=
  match counter.task with
  | .delayed => none
  | .entering =>
      if counter.mux = none then some { counter with mux := some .task, task := .entered } else none
  | .entered => some { counter with task := .loaded counter.pulseCount }
  | .loaded count => some { counter with pulseCount := 0, task := .cleared count }
  | .cleared count => some { counter with mux := none, task := .converting count }
  | .converting _ => some { counter with task := .delayed }

def flowCounterStep (counter : FlowCounter) : FlowCounterAction → Option FlowCounter
  | .pulse => if counter.isr = .idle then some { counter with isr := .entering } else none
  | .isr => isrStep counter
  | .wake => if counter.task = .delayed then some { counter with task := .entering } else none
  | .task => countStep counter

abbrev FlowCounterHistory (trace : List (FlowCounter × FlowCounterAction))
    (counter : FlowCounter) : Prop :=
  Run flowCounterStep FlowCounter.boot trace counter

def passesCount (counter : FlowCounter) : FlowCounterAction → Option UInt32
  | .task =>
      match counter.task with
      | .converting count => some count
      | _ => none
  | _ => none

def passedCounts (trace : List (FlowCounter × FlowCounterAction)) : List UInt32 :=
  trace.filterMap (fun taken => passesCount taken.1 taken.2)

/-- The windows between the resets, each with its number of increments, and the increments since
the last reset. -/
def observeWindow (windows : List Nat × Nat) (taken : FlowCounter × FlowCounterAction) :
    List Nat × Nat :=
  match taken.2, taken.1.isr, taken.1.task with
  | .isr, .loaded _, _ => (windows.1, windows.2 + 1)
  | .task, _, .loaded _ => (windows.1 ++ [windows.2], 0)
  | _, _, _ => windows

def windows (trace : List (FlowCounter × FlowCounterAction)) : List Nat × Nat :=
  trace.foldl observeWindow ([], 0)

def pulses (trace : List (FlowCounter × FlowCounterAction)) : Nat :=
  trace.countP (fun taken => taken.2 == .pulse)

theorem windows_snoc (trace : List (FlowCounter × FlowCounterAction))
    (taken : FlowCounter × FlowCounterAction) :
    windows (trace ++ [taken]) = observeWindow (windows trace) taken := by
  rw [windows, List.foldl_append]
  rfl

/-- The pulse whose increment is still to come. -/
def IsrPc.pending : IsrPc → Nat
  | .entering | .entered | .loaded _ => 1
  | .idle | .stored => 0

def IsrPc.inside : IsrPc → Bool
  | .entered | .loaded _ | .stored => true
  | .idle | .entering => false

def CountPc.inside : CountPc → Bool
  | .entered | .loaded _ | .cleared _ => true
  | .delayed | .entering | .converting _ => false

/-- The count that flow_task has taken and not passed on. -/
def CountPc.taken : CountPc → List UInt32
  | .cleared count | .converting count => [count]
  | _ => []

/-- Only one side is inside, and what it has loaded is the count. -/
structure Locked (counter : FlowCounter) : Prop where
  isrInside : counter.isr.inside = true ↔ counter.mux = some .isr
  taskInside : counter.task.inside = true ↔ counter.mux = some .task
  isrLoaded : ∀ value, counter.isr = .loaded value → value = counter.pulseCount
  taskLoaded : ∀ count, counter.task = .loaded count → count = counter.pulseCount

theorem Locked.task_outside {counter : FlowCounter} (locked : Locked counter)
    (inside : counter.isr.inside = true) : counter.task.inside = false := by
  have owner := locked.isrInside.mp inside
  by_contra both
  have other := locked.taskInside.mp (Bool.not_eq_false _ ▸ both)
  rw [owner] at other
  cases other

theorem Locked.isr_outside {counter : FlowCounter} (locked : Locked counter)
    (inside : counter.task.inside = true) : counter.isr.inside = false := by
  have owner := locked.taskInside.mp inside
  by_contra both
  have other := locked.isrInside.mp (Bool.not_eq_false _ ▸ both)
  rw [owner] at other
  cases other

theorem locked_step {counter next : FlowCounter} {action : FlowCounterAction}
    (locked : Locked counter) (taken : flowCounterStep counter action = some next) :
    Locked next := by
  have alone := locked.task_outside
  have quiet := locked.isr_outside
  obtain ⟨isrInside, taskInside, isrLoaded, taskLoaded⟩ := locked
  obtain ⟨mux, pulseCount, isr, task⟩ := counter
  cases action with
  | pulse =>
      cases isr <;> cases taken
      exact ⟨isrInside, taskInside, nofun, taskLoaded⟩
  | wake =>
      cases task <;> cases taken
      exact ⟨isrInside, taskInside, isrLoaded, nofun⟩
  | isr =>
      cases isr with
      | idle => cases taken
      | entering =>
          simp only [flowCounterStep, isrStep] at taken
          split at taken <;> cases taken
          rename_i unlocked
          have out : task.inside = false := by simpa [unlocked] using taskInside
          exact ⟨by simp [IsrPc.inside], by simp [out], nofun, taskLoaded⟩
      | entered =>
          cases taken
          exact ⟨isrInside, taskInside, fun value is => (IsrPc.loaded.inj is).symm, taskLoaded⟩
      | loaded value =>
          cases taken
          refine ⟨isrInside, taskInside, nofun, ?_⟩
          rintro count rfl
          cases alone rfl
      | stored =>
          cases taken
          exact ⟨by simp [IsrPc.inside], by simp [alone rfl], nofun, taskLoaded⟩
  | task =>
      cases task with
      | delayed => cases taken
      | entering =>
          simp only [flowCounterStep, countStep] at taken
          split at taken <;> cases taken
          rename_i unlocked
          have out : isr.inside = false := by simpa [unlocked] using isrInside
          exact ⟨by simp [out], by simp [CountPc.inside], isrLoaded, nofun⟩
      | entered =>
          cases taken
          exact ⟨isrInside, taskInside, isrLoaded, fun count is => (CountPc.loaded.inj is).symm⟩
      | loaded count =>
          cases taken
          refine ⟨isrInside, taskInside, ?_, nofun⟩
          rintro value rfl
          cases quiet rfl
      | cleared count =>
          cases taken
          exact ⟨by simp [quiet rfl], by simp [CountPc.inside], isrLoaded, nofun⟩
      | converting count =>
          cases taken
          exact ⟨isrInside, taskInside, isrLoaded, nofun⟩

/-- The account of the increments. -/
structure Counted (trace : List (FlowCounter × FlowCounterAction)) (counter : FlowCounter) :
    Prop where
  current : counter.pulseCount = UInt32.ofNat (windows trace).2
  handed : passedCounts trace ++ counter.task.taken = (windows trace).1.map UInt32.ofNat
  total : (windows trace).1.sum + (windows trace).2 + counter.isr.pending = pulses trace

theorem passedCounts_snoc (trace : List (FlowCounter × FlowCounterAction)) (counter : FlowCounter)
    (action : FlowCounterAction) :
    passedCounts (trace ++ [(counter, action)]) =
      passedCounts trace ++ (passesCount counter action).toList :=
  filterMap_snoc _ trace _

theorem pulses_snoc (trace : List (FlowCounter × FlowCounterAction)) (counter : FlowCounter)
    (action : FlowCounterAction) :
    pulses (trace ++ [(counter, action)]) = pulses trace + if action == .pulse then 1 else 0 := by
  rw [pulses, List.countP_append, List.countP_singleton, ← pulses]

theorem Counted.kept {trace : List (FlowCounter × FlowCounterAction)} {counter next : FlowCounter}
    {action : FlowCounterAction} (counted : Counted trace counter)
    (unseen : ∀ seen, observeWindow seen (counter, action) = seen)
    (kept : passesCount counter action = none) (count : next.pulseCount = counter.pulseCount)
    (taken : next.task.taken = counter.task.taken)
    (pending : next.isr.pending = counter.isr.pending + if action == .pulse then 1 else 0) :
    Counted (trace ++ [(counter, action)]) next := by
  constructor
  case current => rw [windows_snoc, unseen, count, counted.current]
  case handed =>
    rw [windows_snoc, unseen, passedCounts_snoc, kept, taken, Option.toList_none, List.append_nil]
    exact counted.handed
  case total =>
    rw [windows_snoc, unseen, pulses_snoc, pending, ← counted.total]
    simp only [Nat.add_assoc]

theorem counted_step {trace : List (FlowCounter × FlowCounterAction)} {counter next : FlowCounter}
    {action : FlowCounterAction} (locked : Locked counter) (counted : Counted trace counter)
    (taken : flowCounterStep counter action = some next) :
    Counted (trace ++ [(counter, action)]) next := by
  obtain ⟨mux, pulseCount, isr, task⟩ := counter
  cases action with
  | pulse =>
      cases isr <;> cases taken
      exact counted.kept (fun _ => rfl) rfl rfl rfl rfl
  | wake =>
      cases task <;> cases taken
      exact counted.kept (fun _ => rfl) rfl rfl rfl rfl
  | isr =>
      cases isr with
      | idle => cases taken
      | entering =>
          simp only [flowCounterStep, isrStep] at taken
          split at taken <;> cases taken
          exact counted.kept (fun _ => rfl) rfl rfl rfl rfl
      | entered | stored =>
          cases taken
          exact counted.kept (fun _ => rfl) rfl rfl rfl rfl
      | loaded value =>
          cases taken
          obtain ⟨current, handed, total⟩ := counted
          have count : value = pulseCount := locked.isrLoaded value rfl
          constructor
          case current =>
            rw [windows_snoc]
            show value + 1 = UInt32.ofNat ((windows trace).2 + 1)
            rw [count, show pulseCount = _ from current, UInt32.ofNat_add]
            rfl
          case handed =>
            rw [passedCounts_snoc, windows_snoc]
            simpa [passesCount, observeWindow] using handed
          case total =>
            rw [windows_snoc, pulses_snoc, ← total]
            show (windows trace).1.sum + ((windows trace).2 + 1) + 0 =
              (windows trace).1.sum + (windows trace).2 + 1 + 0
            omega
  | task =>
      cases task with
      | delayed => cases taken
      | entering =>
          simp only [flowCounterStep, countStep] at taken
          split at taken <;> cases taken
          exact counted.kept (fun _ => rfl) rfl rfl rfl rfl
      | entered | cleared =>
          cases taken
          exact counted.kept (fun _ => rfl) rfl rfl rfl rfl
      | loaded count =>
          cases taken
          obtain ⟨current, handed, total⟩ := counted
          have same : count = pulseCount := locked.taskLoaded count rfl
          have window : observeWindow (windows trace)
              (⟨mux, pulseCount, isr, .loaded count⟩, .task) =
                ((windows trace).1 ++ [(windows trace).2], 0) := by
            cases isr <;> rfl
          constructor
          case current => rw [windows_snoc, window]; rfl
          case handed =>
            rw [passedCounts_snoc, windows_snoc, window, List.map_append, ← handed, same,
              show pulseCount = _ from current]
            simp [passesCount, CountPc.taken]
          case total =>
            rw [windows_snoc, pulses_snoc, window, ← total]
            simp
      | converting count =>
          cases taken
          obtain ⟨current, handed, total⟩ := counted
          have window : observeWindow (windows trace)
              (⟨mux, pulseCount, isr, .converting count⟩, .task) = windows trace := by
            cases isr <;> rfl
          constructor
          case current => rw [windows_snoc, window]; exact current
          case handed =>
            rw [passedCounts_snoc, windows_snoc, window, ← handed]
            simp [passesCount, CountPc.taken]
          case total => rw [windows_snoc, pulses_snoc, window, ← total]; rfl

/-- However the handler and the task interleave, each count that sensor_update_flow gets is the
number of pulses counted between two resets, modulo 2^32, and every pulse is counted in one of
the windows or still to be counted. -/
theorem pulses_counted {trace : List (FlowCounter × FlowCounterAction)} {counter : FlowCounter}
    (history : FlowCounterHistory trace counter) :
    passedCounts trace ++ counter.task.taken = (windows trace).1.map UInt32.ofNat ∧
      (windows trace).1.sum + (windows trace).2 + counter.isr.pending = pulses trace ∧
      ¬ (counter.isr.inside = true ∧ counter.task.inside = true) := by
  have held : Locked counter ∧ Counted trace counter := by
    induction history with
    | nil =>
        refine ⟨⟨?_, ?_, nofun, nofun⟩, ⟨rfl, rfl, rfl⟩⟩
        · simp [FlowCounter.boot, IsrPc.inside]
        · simp [FlowCounter.boot, CountPc.inside]
    | snoc _ taken ih => exact ⟨locked_step ih.1 taken, counted_step ih.1 ih.2 taken⟩
  obtain ⟨locked, counted⟩ := held
  refine ⟨counted.handed, counted.total, fun both => ?_⟩
  rw [locked.task_outside both.1] at both
  cases both.2

def threePulses : List FlowCounterAction :=
  [.pulse, .isr, .isr, .isr, .isr, .pulse, .isr, .wake, .isr, .isr, .isr, .task, .task, .pulse,
    .task, .task, .task]

theorem three_pulses_counted :
    ∃ counter, FlowCounterHistory
        (execTrace flowCounterStep FlowCounter.boot threePulses) counter ∧
      [2] ++ counter.task.taken = [2] ∧ [2].sum + 0 + counter.isr.pending = 3 ∧
        ¬ (counter.isr.inside = true ∧ counter.task.inside = true) := by
  obtain ⟨counter, run⟩ := Option.isSome_iff_exists.mp
    (show (exec flowCounterStep FlowCounter.boot threePulses).isSome = true by decide)
  have handed : passedCounts (execTrace flowCounterStep FlowCounter.boot threePulses) = [2] := by
    decide +kernel
  have seen : windows (execTrace flowCounterStep FlowCounter.boot threePulses) = ([2], 0) := by
    decide +kernel
  have pulsed : pulses (execTrace flowCounterStep FlowCounter.boot threePulses) = 3 := by
    decide +kernel
  have account := pulses_counted (run_of_exec run)
  rw [handed, seen, pulsed] at account
  exact ⟨counter, run_of_exec run, account⟩

/-! The readings -/

theorem destutter'_snoc {Item : Type*} [DecidableEq Item] (items : List Item)
    (first item : Item) :
    (items ++ [item]).destutter' (· ≠ ·) first =
      items.destutter' (· ≠ ·) first ++
        if (first :: items).getLast? = some item then [] else [item] := by
  induction items generalizing first with
  | nil =>
      by_cases same : first = item
      · simp [same]
      · simp [same]
  | cons second rest ih =>
      rw [List.cons_append, List.getLast?_cons_cons]
      by_cases same : first = second
      · rw [same, List.destutter'_cons_neg (h := by simp), List.destutter'_cons_neg (h := by simp)]
        exact ih second
      · rw [List.destutter'_cons_pos (h := same), List.destutter'_cons_pos (h := same), ih second]
        rfl

theorem destutter_snoc {Item : Type*} [DecidableEq Item] (items : List Item) (item : Item) :
    (items ++ [item]).destutter (· ≠ ·) =
      items.destutter (· ≠ ·) ++ if items.getLast? = some item then [] else [item] := by
  cases items with
  | nil => rfl
  | cons first rest => exact destutter'_snoc rest first item

def storedRead (system : PushSystem) : PushAction → Option (UInt8 × UInt8)
  | .dht _ =>
      match system.dht with
      | .tray t h => some (t, h)
      | _ => none
  | _ => none

def storedReads (trace : List (PushSystem × PushAction)) : List (UInt8 × UInt8) :=
  trace.filterMap (fun taken => storedRead taken.1 taken.2)

theorem storedReads_snoc (trace : List (PushSystem × PushAction)) (system : PushSystem)
    (action : PushAction) :
    storedReads (trace ++ [(system, action)]) =
      storedReads trace ++ (storedRead system action).toList :=
  filterMap_snoc _ trace _

/-- The reading on its way into sensor_update_dht. -/
def DhtPc.unstored : DhtPc → List (UInt8 × UInt8)
  | .tray t h => [(t, h)]
  | _ => []

/-- `last_t` and `last_h` hold this read, and no read at first. -/
def LastIs (system : PushSystem) : Option (UInt8 × UInt8) → Prop
  | none => system.lastT = -999
  | some (t, h) => system.lastT = dhtValue t ∧ system.lastH = dhtValue h

/-- The last read is remembered, or is being passed on. -/
def Remembered (last : Option (UInt8 × UInt8)) (system : PushSystem) : Prop :=
  match system.dht with
  | .idle | .read _ _ => LastIs system last
  | .tray t h | .mark t h | .notify t h => last = some (t, h)

theorem Remembered.congr {last : Option (UInt8 × UInt8)} {system next : PushSystem}
    (remembered : Remembered last system) (pc : next.dht = system.dht)
    (lastT : next.lastT = system.lastT) (lastH : next.lastH = system.lastH) :
    Remembered last next := by
  unfold Remembered LastIs at remembered ⊢
  rw [pc, lastT, lastH]
  exact remembered

structure PassedOn (trace : List (PushSystem × PushAction)) (system : PushSystem) : Prop where
  stored : storedReads trace ++ system.dht.unstored = (comparedReads trace).destutter (· ≠ ·)
  last : Remembered (comparedReads trace).getLast? system

theorem dhtValue_inj {first second : UInt8} :
    dhtValue first = dhtValue second ↔ first = second := by
  rw [dhtValue, dhtValue, Int.ofNat_inj, UInt8.toNat_inj]

theorem changed_iff {system : PushSystem} {last : Option (UInt8 × UInt8)} {t h : UInt8}
    (is : LastIs system last) :
    (dhtValue t ≠ system.lastT ∨ dhtValue h ≠ system.lastH) ↔ last ≠ some (t, h) := by
  cases last with
  | none =>
      have first : dhtValue t ≠ system.lastT := by
        rw [show system.lastT = -999 from is]
        exact dhtValue_ne t
      simp [first]
  | some read =>
      obtain ⟨lastT, lastH⟩ := read
      rw [is.1, is.2, ← not_and_or, dhtValue_inj, dhtValue_inj, ne_eq, Option.some.injEq,
        Prod.mk.injEq, eq_comm (a := t), eq_comm (a := h)]

theorem PassedOn.kept {trace : List (PushSystem × PushAction)} {system next : PushSystem}
    {action : PushAction} (passed : PassedOn trace system)
    (uncompared : comparedRead system action = none) (unstored : storedRead system action = none)
    (same : next.dht.unstored = system.dht.unstored)
    (last : Remembered (comparedReads trace).getLast? next) :
    PassedOn (trace ++ [(system, action)]) next := by
  constructor
  case stored =>
    rw [storedReads_snoc, comparedReads_kept trace uncompared, unstored, same, Option.toList_none,
      List.append_nil]
    exact passed.stored
  case last =>
    rw [comparedReads_kept trace uncompared]
    exact last

theorem passedOn_step {trace : List (PushSystem × PushAction)} {system next : PushSystem}
    {action : PushAction} (passed : PassedOn trace system)
    (taken : pushStep system action = some next) : PassedOn (trace ++ [(system, action)]) next := by
  have last := passed.last
  cases action with
  | dhtRead t h =>
      simp only [pushStep] at taken
      split at taken <;> cases taken
      rename_i idle
      rw [Remembered, idle] at last
      exact passed.kept rfl rfl (by rw [idle]; rfl) last
  | dht now =>
      simp only [pushStep, dhtStep] at taken
      split at taken
      · cases taken
      · rename_i t h pc
        cases taken
        rw [Remembered, pc] at last
        have stored := passed.stored
        rw [pc] at stored
        change storedReads trace ++ [] = _ at stored
        rw [List.append_nil] at stored
        have compared : comparedRead system (.dht now) = some (t, h) := by rw [comparedRead, pc]
        have unstored : storedRead system (.dht now) = none := by rw [storedRead, pc]
        have changed : (dhtValue t ≠ system.lastT ∨ dhtValue h ≠ system.lastH) ↔ _ :=
          changed_iff last
        have account (pc : DhtPc) (one : pc.unstored =
            if (comparedReads trace).getLast? = some (t, h) then [] else [(t, h)])
            (after : Remembered (some (t, h)) { system with dht := pc }) :
            PassedOn (trace ++ [(system, .dht now)]) { system with
              registry := system.registry.mark HydroGovernor.dht now
              dht := pc } := by
          constructor
          case stored =>
            rw [storedReads_snoc, comparedReads_snoc, unstored, compared, Option.toList_none,
              List.append_nil, Option.toList_some, destutter_snoc, ← stored, ← one]
          case last =>
            rw [last_compared trace compared]
            exact after
        by_cases differs : dhtValue t ≠ system.lastT ∨ dhtValue h ≠ system.lastH
        · rw [if_pos differs]
          exact account (.tray t h) (by rw [if_neg (changed.mp differs)]; rfl) rfl
        · rw [if_neg differs]
          have repeated := not_not.mp (fun new => differs (changed.mpr new))
          exact account .idle (by rw [if_pos repeated]; rfl) (repeated ▸ last)
      · rename_i t h pc
        cases taken
        rw [Remembered, pc] at last
        have stored := passed.stored
        rw [pc] at stored
        have uncompared : comparedRead system (.dht now) = none := by rw [comparedRead, pc]
        have kept : storedRead system (.dht now) = some (t, h) := by rw [storedRead, pc]
        constructor
        case stored =>
          rw [storedReads_snoc, comparedReads_kept trace uncompared, kept]
          exact (List.append_nil _).trans stored
        case last =>
          rw [comparedReads_kept trace uncompared]
          exact last
      · rename_i t h pc
        cases taken
        rw [Remembered, pc] at last
        exact passed.kept (by rw [comparedRead, pc]) (by rw [storedRead, pc])
          (by rw [pc]; rfl) last
      · rename_i t h pc
        cases taken
        rw [Remembered, pc] at last
        refine passed.kept (by rw [comparedRead, pc]) (by rw [storedRead, pc])
          (by rw [pc]; rfl) ?_
        rw [last]
        exact ⟨rfl, rfl⟩
  | createPush | flowRead count | flow now | health now | push fits =>
      have work := pushStep_dhtWork (by simp) (by simp) taken
      have dht : next.dht = system.dht := congrArg DhtWork.pc work
      exact passed.kept rfl rfl (by rw [dht])
        (last.congr dht (congrArg DhtWork.lastT work) (congrArg DhtWork.lastH work))

/-- Whatever the other tasks do, sensor_update_dht gets the reads of dht_task without their
repetitions: none is lost, and none is stored and pushed twice in a row. -/
theorem changes_stored (entries : List (CString × UInt32))
    (trace : List (PushSystem × PushAction)) (system : PushSystem)
    (run : PushHistory entries trace system) :
    storedReads trace ++ system.dht.unstored = (comparedReads trace).destutter (· ≠ ·) := by
  have passed : PassedOn trace system := by
    induction run with
    | nil => exact ⟨rfl, rfl⟩
    | snoc _ taken ih => exact passedOn_step ih taken
  exact passed.stored

def threeReads : List PushAction :=
  .dhtRead 24 61 :: List.replicate 4 (.dht 2000) ++ [.dhtRead 24 61, .dht 3000, .dhtRead 25 61] ++
    List.replicate 2 (.dht 4000)

theorem three_reads_stored :
    ∃ system, PushHistory twoSensors
        (execTrace pushStep (PushSystem.boot twoSensors) threeReads) system ∧
      [(24, 61), (25, 61)] ++ system.dht.unstored =
        [(24, 61), (24, 61), (25, 61)].destutter (· ≠ ·) := by
  obtain ⟨system, run⟩ := Option.isSome_iff_exists.mp
    (show (exec pushStep (PushSystem.boot twoSensors) threeReads).isSome = true by decide +kernel)
  have compared : comparedReads (execTrace pushStep (PushSystem.boot twoSensors) threeReads) =
      [(24, 61), (24, 61), (25, 61)] := by
    decide +kernel
  have stored : storedReads (execTrace pushStep (PushSystem.boot twoSensors) threeReads) =
      [(24, 61), (25, 61)] := by
    decide +kernel
  have account := changes_stored twoSensors _ system (run_of_exec run)
  rw [compared, stored] at account
  exact ⟨system, run_of_exec run, account⟩

end HydroGovernor
