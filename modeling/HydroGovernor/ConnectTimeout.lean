import HydroGovernor.AttemptOverlap

/-! How long an attempt may last. The clock runs under a main loop that turns at least every
200 ms. -/

namespace HydroGovernor

open Firmware

def MainPc.now : MainPc → Option Nat
  | .testActive now => some now
  | .testFailed now => some now
  | .reconnectRead now => some now
  | .reconnectTarget now _ => some now
  | .reconnectEnter now _ => some now
  | .reconnectConfigure now _ => some now
  | .reconnectLaunch now => some now
  | _ => none

def Action.isMain : Action → Bool
  | .main _ _ => true
  | _ => false

def loopPeriodUs : Nat := 200000

/-- The device with the time at which the main loop last began an iteration. -/
structure TimedSystem where
  system : System
  turnUs : Nat
  deriving DecidableEq, Repr

def TimedSystem.powerOn (nvs : Nvs) : TimedSystem := ⟨System.powerOn nvs, 0⟩

/-- Time stops short of 200 ms after the begin of an iteration, until the next has begun. -/
def timedStep (timed : TimedSystem) (action : Action) : Option TimedSystem :=
  match step timed.system action with
  | none => none
  | some next =>
      if timed.system.started = false ∨ (timed.system.main = .loop ∧ action.isMain = true) then
        some ⟨next, next.device.clock⟩
      else if next.device.clock ≤ timed.turnUs + loopPeriodUs then some ⟨next, timed.turnUs⟩
      else none

abbrev TimedHistory (nvs : Nvs) (trace : List (TimedSystem × Action)) (timed : TimedSystem) :
    Prop :=
  Transition.Run timedStep (TimedSystem.powerOn nvs) trace timed

def systems (trace : List (TimedSystem × Action)) : List (System × Action) :=
  trace.map (fun taken => (taken.1.system, taken.2))

theorem timedStep_step {timed next : TimedSystem} {action : Action}
    (taken : timedStep timed action = some next) :
    step timed.system action = some next.system := by
  unfold timedStep at taken
  split at taken
  · cases taken
  · rename_i stepped
    split at taken
    · cases taken
      exact stepped
    split at taken
    · cases taken
      exact stepped
    · cases taken

theorem history_of_timed {nvs : Nvs} {trace : List (TimedSystem × Action)} {timed : TimedSystem}
    (run : TimedHistory nvs trace timed) : History nvs (systems trace) timed.system :=
  run.map TimedSystem.system (fun _ _ _ taken => timedStep_step taken)

def connectLimitUs : Nat := (wifiConnectTimeoutMs + 1000) * 1000

/-- Right after every iteration of the main loop, an attempt still in CONNECTING is no older
than the limit. -/
def endsInTime (trace : List (System × Action)) : Prop :=
  ∀ front system action back next now, trace = front ++ (system, action) :: back →
    action.isMain = true → system.main.now = some now → step system action = some next →
    next.main = .loop → next.device.state = .connecting →
    now ≤ next.device.connStartUs + connectLimitUs

def entersConnecting (system : System) : Action → Bool
  | .boot opens _ => (nvsRead opens system.device.nvs).isSome
  | action => startsAttempt system action

/-- The step ends an attempt: an address, a disconnect after the retry, a driver call that
fails at once, or a restart. -/
def endsAttempt (system : System) : Action → Bool
  | .gotIp _ => true
  | .disconnected _ _ => decide (1 ≤ system.device.retryCount)
  | .httpd ret => decide (ret ≠ .ok) &&
      match system.httpd with
      | .connectLaunch => true
      | .connectConfigure _ => true
      | _ => false
  | .main ret _ =>
      match system.main with
      | .reconnectLaunch _ => decide (ret ≠ .ok)
      | .restarting => true
      | _ => false
  | .restart => true
  | _ => false

/-- By the time an iteration of the main loop finds an attempt older than the limit, the
attempt has been ended or replaced. -/
def answeredInTime (trace : List (System × Action)) : Prop :=
  ∀ front start middle late back now, trace = front ++ start :: middle ++ late :: back →
    entersConnecting start.1 start.2 = true → late.2.isMain = true → late.1.main.now = some now →
    start.1.device.clock + connectLimitUs < now →
    ∃ taken ∈ middle, endsAttempt taken.1 taken.2 = true ∨ entersConnecting taken.1 taken.2 = true

/-- The step goes on with an attempt that began before it. -/
structure Continues (system : System) (action : Action) (next : System) : Prop where
  connecting : system.device.state = .connecting
  since : next.device.connStartUs = system.device.connStartUs
  unended : endsAttempt system action = false
  unreplaced : entersConnecting system action = false

theorem connecting_httpd {system next : System} {ret : EspErr}
    (taken : httpdStep system ret = some next) (connecting : next.device.state = .connecting) :
    (entersConnecting system (.httpd ret) = true ∧
        next.device.connStartUs = system.device.clock) ∨
      Continues system (.httpd ret) next := by
  unfold httpdStep at taken
  cases pc : system.httpd with
  | connectEnter config =>
      simp only [pc] at taken
      cases taken
      exact Or.inl ⟨by simp [entersConnecting, startsAttempt, pc, HttpdPc.entering], rfl⟩
  | connectConfigure config | connectLaunch =>
      simp only [pc] at taken
      split at taken
      · rename_i ok
        cases taken
        exact Or.inr ⟨connecting, rfl, by simp [endsAttempt, ok],
          by simp [entersConnecting, startsAttempt, pc, HttpdPc.entering]⟩
      · cases taken
        cases connecting
  | connectAlign config pointer =>
      simp only [pc] at taken
      cases taken
      obtain ⟨channel, aligned⟩ := system.device.alignChannel_frame pointer
      simp only [aligned] at connecting
      exact Or.inr ⟨connecting, by simp only [aligned], by simp [endsAttempt, pc],
        by simp [entersConnecting, startsAttempt, pc, HttpdPc.entering]⟩
  | _ =>
      simp only [pc] at taken
      (try split at taken) <;> cases taken <;>
        exact Or.inr ⟨connecting, rfl, by simp [endsAttempt, pc],
          by simp [entersConnecting, startsAttempt, pc, HttpdPc.entering]⟩

theorem connecting_main {system next : System} {ret : EspErr} {outcome : NvsOutcome}
    (taken : mainStep system ret outcome = some next)
    (connecting : next.device.state = .connecting) :
    (entersConnecting system (.main ret outcome) = true ∧
        next.device.connStartUs = system.device.clock ∧ next.main ≠ .loop) ∨
      Continues system (.main ret outcome) next := by
  unfold mainStep at taken
  cases pc : system.main with
  | init | boot => simp [pc] at taken
  | bootWait since =>
      simp only [pc] at taken
      repeat' (split at taken)
      all_goals
        cases taken
        try exact Or.inr ⟨connecting, rfl, by simp [endsAttempt, pc],
          by simp [entersConnecting, startsAttempt, pc, MainPc.entering]⟩
  | restarting =>
      simp only [pc] at taken
      cases taken
      cases connecting
  | reconnectEnter now config =>
      simp only [pc] at taken
      cases taken
      refine Or.inl ⟨by simp [entersConnecting, startsAttempt, pc, MainPc.entering], rfl, ?_⟩
      exact MainPc.noConfusion
  | reconnectLaunch now =>
      simp only [pc] at taken
      split at taken
      · rename_i ok
        cases taken
        exact Or.inr ⟨connecting, rfl, by simp [endsAttempt, pc, ok],
          by simp [entersConnecting, startsAttempt, pc, MainPc.entering]⟩
      · cases taken
        cases connecting
  | _ =>
      simp only [pc] at taken
      (try split at taken) <;> cases taken <;>
        exact Or.inr ⟨connecting, rfl, by simp [endsAttempt, pc],
          by simp [entersConnecting, startsAttempt, pc, MainPc.entering]⟩

theorem connecting_disconnected {device : Device} {reason : Reason} {outcome : NvsOutcome}
    (connecting : (device.onDisconnected reason outcome).state = .connecting) :
    device.state = .connecting ∧ device.retryCount < 1 ∧
      (device.onDisconnected reason outcome).connStartUs = device.connStartUs := by
  by_cases connected : device.state = .connected
  · simp [Device.onDisconnected_connected connected] at connecting
  by_cases before : device.state = .connecting
  · by_cases unused : device.retryCount < 1
    · exact ⟨before, unused, by simp [Device.onDisconnected_retry before unused]⟩
    · simp [Device.onDisconnected_final before unused, Device.attemptFailed] at connecting
  · rw [Device.onDisconnected_other connected before] at connecting
    exact absurd connecting before

/-- A step that leaves the device in CONNECTING writes it, or goes on with the attempt. -/
theorem connecting_step {system next : System} {action : Action}
    (taken : step system action = some next) (connecting : next.device.state = .connecting) :
    (entersConnecting system action = true ∧ next.device.connStartUs = system.device.clock ∧
        (action.isMain = true → next.main ≠ .loop)) ∨
      Continues system action next := by
  cases action with
  | httpd ret =>
      rcases connecting_httpd taken connecting with ⟨enters, since⟩ | continues
      · exact Or.inl ⟨enters, since, fun is => by cases is⟩
      · exact Or.inr continues
  | main ret outcome =>
      rcases connecting_main taken connecting with ⟨enters, since, later⟩ | continues
      · exact Or.inl ⟨enters, since, fun _ => later⟩
      · exact Or.inr continues
  | disconnected reason outcome =>
      obtain ⟨-, rfl⟩ := disconnected_cases taken
      obtain ⟨before, unused, since⟩ := connecting_disconnected connecting
      exact Or.inr ⟨before, since, by simp [endsAttempt, Nat.lt_one_iff.mp unused], rfl⟩
  | gotIp outcome =>
      obtain ⟨-, rfl⟩ := gotIp_cases taken
      cases connecting
  | boot opens driver =>
      rcases (boot_cases taken).2 with ⟨-, rfl⟩ | ⟨creds, read, rfl⟩
      · cases connecting
      · exact Or.inl ⟨by simp [entersConnecting, read], rfl, fun is => by cases is⟩
  | delayed index =>
      obtain ⟨-, -, active, device⟩ := delayedStep_device taken
      rw [device] at connecting
      exact Or.inr ⟨connecting, by rw [device], rfl, rfl⟩
  | init flash =>
      obtain ⟨-, rfl⟩ := init_cases taken
      rcases initStep_cases system flash with ⟨-, ready⟩ | ⟨-, aborted⟩
      · rw [ready] at connecting ⊢
        exact Or.inr ⟨connecting, rfl, rfl, rfl⟩
      · rw [aborted] at connecting
        cases connecting
  | restart =>
      cases taken
      cases connecting
  | _ =>
      simp only [step] at taken
      repeat' (split at taken)
      all_goals
        cases taken
        try exact Or.inr ⟨connecting, rfl, rfl, rfl⟩

/-- The attempt in CONNECTING was begun by a step of the history, which nothing has ended or
replaced since. -/
def attemptKnown (trace : List (System × Action)) (system : System) : Prop :=
  system.device.state = .connecting →
    ∃ front start middle, trace = front ++ start :: middle ∧
      entersConnecting start.1 start.2 = true ∧
      start.1.device.clock = system.device.connStartUs ∧
      ∀ taken ∈ middle, endsAttempt taken.1 taken.2 = false ∧
        entersConnecting taken.1 taken.2 = false

theorem attemptKnown_step {trace : List (System × Action)} {system next : System}
    {action : Action} (known : attemptKnown trace system)
    (taken : step system action = some next) :
    attemptKnown (trace ++ [(system, action)]) next := by
  intro connecting
  rcases connecting_step taken connecting with ⟨enters, since, -⟩ | continues
  · exact ⟨trace, (system, action), [], rfl, enters, since.symm, by simp⟩
  · obtain ⟨front, start, middle, split, enters, since, none⟩ := known continues.connecting
    refine ⟨front, start, middle ++ [(system, action)], ?_, enters,
      since.trans continues.since.symm, ?_⟩
    · rw [split, List.append_assoc, List.cons_append]
    · intro pair member
      rcases List.mem_append.mp member with before | last
      · exact none pair before
      · rw [List.mem_singleton.mp last]
        exact ⟨continues.unended, continues.unreplaced⟩

theorem attemptKnown_before {nvs : Nvs} {trace front back : List (System × Action)}
    {final system : System} {action : Action} (run : History nvs trace final)
    (split : trace = front ++ (system, action) :: back) : attemptKnown front system :=
  run.invariant_before attemptKnown (fun _ _ => True) (fun connecting => by cases connecting)
    (fun _ _ _ _ _ known _ taken => attemptKnown_step known taken) (fun _ _ => trivial) split

theorem endsInTime_of_answered {nvs : Nvs} {trace : List (System × Action)} {final : System}
    (run : History nvs trace final) (answered : answeredInTime trace) : endsInTime trace := by
  intro front system action back next now split isMain reading taken turned connecting
  rcases connecting_step taken connecting with ⟨-, -, later⟩ | continues
  · exact absurd turned (later isMain)
  · by_contra exceeded
    obtain ⟨earlier, start, middle, known, enters, since, none⟩ :=
      attemptKnown_before run split continues.connecting
    rw [continues.since, ← since] at exceeded
    have whole : trace = earlier ++ start :: middle ++ (system, action) :: back := by
      rw [split, known]
    obtain ⟨answer, member, ended⟩ := answered earlier start middle (system, action) back now whole
      enters isMain reading (Nat.lt_of_not_le exceeded)
    obtain ⟨unended, unreplaced⟩ := none answer member
    rw [unended, unreplaced] at ended
    rcases ended with is | is
    · cases is
    · cases is

/-- In every timed run whose attempts are answered in time, no attempt outlasts the limit. -/
theorem attempts_end_in_time (nvs : Nvs) (trace : List (TimedSystem × Action))
    (final : TimedSystem) (run : TimedHistory nvs trace final)
    (answered : answeredInTime (systems trace)) : endsInTime (systems trace) :=
  endsInTime_of_answered (history_of_timed run) answered

def associatedAttempt : List Action :=
  .init .ready :: .boot .ok noScan :: serveSave cafe cafeRecord.pass false ++ [.staConnected]

def System.later (system : System) (us : Nat) : System :=
  { system with device := { system.device with clock := system.device.clock + us } }

@[simp] theorem System.later_main (system : System) (us : Nat) :
    (system.later us).main = system.main := rfl

@[simp] theorem System.later_apActive (system : System) (us : Nat) :
    (system.later us).device.apActive = system.device.apActive := rfl

@[simp] theorem System.later_clock (system : System) (us : Nat) :
    (system.later us).device.clock = system.device.clock + us := rfl

@[simp] theorem System.later_state (system : System) (us : Nat) :
    (system.later us).device.state = system.device.state := rfl

@[simp] theorem System.later_connStartUs (system : System) (us : Nat) :
    (system.later us).device.connStartUs = system.device.connStartUs := rfl

theorem System.later_later (system : System) (first second : Nat) :
    (system.later first).later second = system.later (first + second) := by
  simp only [System.later, Nat.add_assoc]

theorem turn_begins {timed : TimedSystem} (atLoop : timed.system.main = .loop) :
    timedStep timed (.main .ok .success) = some
      ⟨{ timed.system with main := .testActive timed.system.device.clock },
        timed.system.device.clock⟩ := by
  simp only [timedStep, step, mainStep, atLoop]
  rw [if_pos (Or.inr ⟨trivial, rfl⟩)]

theorem turn_ends {timed : TimedSystem} {now : Nat} (testing : timed.system.main = .testActive now)
    (ap : timed.system.device.apActive = true)
    (soon : timed.system.device.clock ≤ timed.turnUs + loopPeriodUs) :
    timedStep timed (.main .ok .success) =
      some ⟨{ timed.system with main := .loop }, timed.turnUs⟩ := by
  simp only [timedStep, step, mainStep, testing, ap, if_true]
  rw [if_neg (by simp [System.started, testing, MainPc.started]), if_pos soon]

theorem turn_waits {timed : TimedSystem} {us : Nat} (atLoop : timed.system.main = .loop)
    (soon : timed.system.device.clock + us ≤ timed.turnUs + loopPeriodUs) :
    timedStep timed (.tick us) = some ⟨timed.system.later us, timed.turnUs⟩ := by
  simp only [timedStep, step]
  rw [if_neg (by simp [System.started, atLoop, MainPc.started, Action.isMain]), if_pos soon]
  rfl

theorem System.main_again {system : System} (now : Nat) (atLoop : system.main = .loop) :
    { { system with main := .testActive now } with main := .loop } = system := by
  obtain ⟨device, httpd, main, event, delayed, scheduled, calls, last⟩ := system
  cases atLoop
  rfl

theorem idle_turn {system : System} (turnUs : Nat) (atLoop : system.main = .loop)
    (ap : system.device.apActive = true) :
    ∃ trace, Transition.Run timedStep ⟨system, turnUs⟩ trace
      ⟨system.later loopPeriodUs, system.device.clock⟩ := by
  have begun := Transition.Run.nil.snoc
    (turn_begins (show (TimedSystem.mk system turnUs).system.main = .loop from atLoop))
  have ended := begun.snoc (turn_ends rfl ap (Nat.le_add_right _ _))
  have waited := ended.snoc (turn_waits rfl (le_refl _))
  rw [System.main_again _ atLoop] at waited
  exact ⟨_, waited⟩

theorem idle_turns (turns : Nat) {timed : TimedSystem} (atLoop : timed.system.main = .loop)
    (ap : timed.system.device.apActive = true) :
    ∃ trace turnUs, Transition.Run timedStep timed trace
      ⟨timed.system.later (turns * loopPeriodUs), turnUs⟩ := by
  induction turns with
  | zero =>
      rw [Nat.zero_mul]
      exact ⟨[], timed.turnUs, .nil⟩
  | succ turns ih =>
      obtain ⟨trace, turnUs, run⟩ := ih
      have still : (timed.system.later (turns * loopPeriodUs)).main = .loop := by
        rw [System.later_main, atLoop]
      obtain ⟨turn, more⟩ := idle_turn turnUs still (by rw [System.later_apActive, ap])
      rw [Nat.add_one_mul, ← System.later_later]
      exact ⟨_, _, run.append more⟩

theorem exists_timedHistory (nvs : Nvs) (actions : List Action) (property : TimedSystem → Bool)
    (executed : (Transition.exec timedStep (TimedSystem.powerOn nvs) actions).any property =
      true) :
    ∃ final, TimedHistory nvs (Transition.execTrace timedStep (TimedSystem.powerOn nvs) actions)
      final ∧ property final = true :=
  Transition.exists_run_of_exec actions property executed

theorem endsInTime_last {front : List (System × Action)} {system next : System} {action : Action}
    {now : Nat} (inTime : endsInTime (front ++ [(system, action)])) (isMain : action.isMain = true)
    (reading : system.main.now = some now) (taken : step system action = some next)
    (turned : next.main = .loop) (connecting : next.device.state = .connecting) :
    now ≤ next.device.connStartUs + connectLimitUs :=
  inTime front system action [] next now rfl isMain reading taken turned connecting

theorem limit_of_endsInTime {nvs : Nvs} {trace : List (TimedSystem × Action)}
    {timed : TimedSystem} (run : TimedHistory nvs trace timed)
    (atLoop : timed.system.main = .loop) (ap : timed.system.device.apActive = true)
    (connecting : timed.system.device.state = .connecting)
    (inTime : ∀ trace final, TimedHistory nvs trace final → endsInTime (systems trace)) :
    timed.system.device.clock ≤ timed.system.device.connStartUs + connectLimitUs := by
  have begun := run.snoc (turn_begins atLoop)
  have ended := turn_ends
    (show (TimedSystem.mk { timed.system with main := .testActive timed.system.device.clock }
      timed.system.device.clock).system.main = _ from rfl) ap (Nat.le_add_right _ _)
  have every := inTime _ _ (begun.snoc ended)
  rw [systems, List.map_append] at every
  have last := endsInTime_last every rfl rfl (timedStep_step ended) rfl connecting
  exact last

/-- The station associates and DHCP never answers: 46 iterations later the device is still in
CONNECTING. -/
theorem attempt_without_answer_outlasts :
    ¬ ∀ nvs trace final, TimedHistory nvs trace final → endsInTime (systems trace) := by
  intro inTime
  obtain ⟨timed, boot, ready⟩ := exists_timedHistory Nvs.erased associatedAttempt
    (fun timed => decide (timed.system.main = .loop) && timed.system.device.apActive &&
      decide (timed.system.device.state = .connecting) &&
      decide (timed.system.device.connStartUs = 0)) (by decide)
  simp only [Bool.and_eq_true, decide_eq_true_eq] at ready
  obtain ⟨⟨⟨atLoop, ap⟩, connecting⟩, since⟩ := ready
  obtain ⟨turns, turnUs, run⟩ := idle_turns 46 atLoop ap
  have late := limit_of_endsInTime (boot.append run) (by rw [System.later_main, atLoop])
    (by rw [System.later_apActive, ap]) (by rw [System.later_state, connecting])
    (inTime Nvs.erased)
  rw [System.later_clock, System.later_connStartUs, since] at late
  unfold connectLimitUs wifiConnectTimeoutMs loopPeriodUs at late
  omega

def answeredAttempt : List Action :=
  associatedAttempt ++ ([.main .ok .success, .main .ok .success, .gotIp .success,
    .main .ok .success, .main .ok .success] : List Action)

theorem answeredInTime_of_early {trace : List (System × Action)}
    (early : ∀ taken ∈ trace, ∀ now, taken.1.main.now = some now → now ≤ connectLimitUs) :
    answeredInTime trace := by
  intro front start middle late back now split _ _ reading exceeded
  have member : late ∈ trace := by simp [split]
  have soon := early late member now reading
  omega

theorem answered_attempt_ends :
    ∃ trace final, TimedHistory Nvs.erased trace final ∧ answeredInTime (systems trace) ∧
      endsInTime (systems trace) ∧ final.system.device.state = .connected := by
  obtain ⟨final, run, connected⟩ := exists_timedHistory Nvs.erased answeredAttempt
    (fun timed => decide (timed.system.device.state = .connected)) (by decide)
  have early : ∀ taken ∈ systems (Transition.execTrace timedStep
      (TimedSystem.powerOn Nvs.erased) answeredAttempt),
      taken.1.main.now.all (fun now => decide (now ≤ connectLimitUs)) = true := by decide
  have answered := answeredInTime_of_early (fun taken member now reading => by
    have soon := early taken member
    rw [reading] at soon
    exact of_decide_eq_true soon)
  exact ⟨_, final, run, answered, attempts_end_in_time _ _ _ run answered,
    of_decide_eq_true connected⟩

end HydroGovernor
