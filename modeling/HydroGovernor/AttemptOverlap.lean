import HydroGovernor.Tasks

/-! Which state a connection attempt is started from. -/

namespace HydroGovernor

open Firmware

/-- wifi_manager_connect has passed its state check and not yet written CONNECTING. -/
def HttpdPc.checked : HttpdPc → Bool
  | .connectLookup _ _ _ => true
  | .connectStage _ _ _ _ => true
  | .connectAlign _ _ => true
  | .connectEnter _ => true
  | _ => false

/-- The main loop has seen FAILED and wifi_manager_reconnect has not yet written CONNECTING. -/
def MainPc.checked : MainPc → Bool
  | .reconnectRead _ => true
  | .reconnectTarget _ _ => true
  | .reconnectEnter _ _ => true
  | _ => false

def HttpdPc.entering : HttpdPc → Bool
  | .connectEnter _ => true
  | _ => false

def MainPc.entering : MainPc → Bool
  | .reconnectEnter _ _ => true
  | _ => false

def startsAttempt (system : System) : Action → Bool
  | .httpd _ => system.httpd.entering
  | .main _ _ => system.main.entering
  | _ => false

/-- Between the check of one task and its write of CONNECTING, the other task does not write
CONNECTING and no GOT_IP arrives. -/
def undisturbed (system : System) : Action → Prop
  | .gotIp _ => system.httpd.checked = false ∧ system.main.checked = false
  | .httpd _ => system.httpd.entering = true → system.main.checked = false
  | .main _ _ => system.main.entering = true → system.httpd.checked = false
  | _ => True

instance (system : System) : (action : Action) → Decidable (undisturbed system action)
  | .gotIp _ => inferInstanceAs (Decidable (_ = false ∧ _ = false))
  | .httpd _ => inferInstanceAs (Decidable (_ → _ = false))
  | .main _ _ => inferInstanceAs (Decidable (_ → _ = false))
  | .tick _ | .staStart | .staConnected | .disconnected .. | .scanDone | .scanPublish _ | .getRoot
  | .postApShutdown | .postSave .. | .getScan | .init _ | .boot .. | .delayed _ | .restart =>
      isTrue trivial

theorem HttpdPc.checked_of_entering {pc : HttpdPc} (entering : pc.entering = true) :
    pc.checked = true := by
  cases pc <;> first | rfl | simp [HttpdPc.entering] at entering

theorem MainPc.checked_of_entering {pc : MainPc} (entering : pc.entering = true) :
    pc.checked = true := by
  cases pc <;> first | rfl | simp [MainPc.entering] at entering

def System.attemptAllowed (system : System) : Prop :=
  system.device.state = .apOnly ∨ system.device.state = .failed

/-- What the checks established still holds. -/
structure ChecksHold (system : System) : Prop where
  httpd : system.httpd.checked = true → system.attemptAllowed
  main : system.main.checked = true → system.device.state = .failed

theorem checks_powerOn (nvs : Nvs) : ChecksHold (System.powerOn nvs) where
  httpd := by simp [System.powerOn, HttpdPc.checked]
  main := by simp [System.powerOn, MainPc.checked]

theorem ChecksHold.of_failed {system next : System} (checks : ChecksHold system)
    (httpd : next.httpd = system.httpd) (main : next.main = system.main)
    (state : next.device.state = system.device.state ∨ next.device.state = .failed) :
    ChecksHold next where
  httpd checked := by
    rcases state with same | failed
    · simpa [System.attemptAllowed, same] using checks.httpd (by rwa [← httpd])
    · exact Or.inr failed
  main checked := by
    rcases state with same | failed
    · rw [same]
      exact checks.main (by rwa [← main])
    · exact failed

theorem onDisconnected_state (device : Device) (reason : Reason) (outcome : NvsOutcome) :
    (device.onDisconnected reason outcome).state = device.state ∨
      (device.onDisconnected reason outcome).state = .failed := by
  by_cases connected : device.state = .connected
  · exact Or.inr (by rw [Device.onDisconnected_connected connected])
  by_cases connecting : device.state = .connecting
  · by_cases unused : device.retryCount < 1
    · exact Or.inl (by rw [Device.onDisconnected_retry connecting unused])
    · exact Or.inr (by rw [Device.onDisconnected_final connecting unused]; rfl)
  · exact Or.inl (by rw [Device.onDisconnected_other connected connecting])

theorem httpdStep_checked {system next : System} {ret : EspErr}
    (taken : httpdStep system ret = some next) (checked : next.httpd.checked = true) :
    system.httpd.checked = true ∨ system.attemptAllowed := by
  unfold httpdStep at taken
  cases pc : system.httpd with
  | saveAccepted ssid pass isOpen =>
      simp only [pc] at taken
      split at taken <;> cases taken
      · rename_i allowed
        exact Or.inr allowed
      · simp [HttpdPc.checked] at checked
  | connectLookup | connectStage | connectAlign | connectEnter => exact Or.inl rfl
  | _ =>
      simp only [pc] at taken
      (try split at taken) <;> cases taken <;>
        simp [HttpdPc.checked, System.powerOn] at checked

theorem mainStep_checked {system next : System} {ret : EspErr} {outcome : NvsOutcome}
    (taken : mainStep system ret outcome = some next) (checked : next.main.checked = true) :
    system.main.checked = true ∨ system.device.state = .failed := by
  unfold mainStep at taken
  cases pc : system.main with
  | testFailed now =>
      simp only [pc] at taken
      split at taken <;> cases taken
      · rename_i failed
        exact Or.inr failed.1
      · simp [MainPc.checked] at checked
  | reconnectRead | reconnectTarget | reconnectEnter => exact Or.inl rfl
  | bootWait since =>
      simp only [pc] at taken
      split at taken
      · cases taken
        simp [MainPc.checked] at checked
      · cases taken
  | _ =>
      simp only [pc] at taken
      (try split at taken) <;> cases taken <;>
        simp [MainPc.checked, System.powerOn] at checked

theorem BootQuiet.unchecked {system : System} (quiet : BootQuiet system)
    (off : system.started = false) : system.httpd.checked = false := by
  rw [quiet.httpd off]
  rfl

theorem checks_httpdStep {system next : System} {ret : EspErr} (checks : ChecksHold system)
    (alone : undisturbed system (.httpd ret)) (taken : httpdStep system ret = some next) :
    ChecksHold next := by
  have entering := httpdStep_checked taken
  rcases httpdStep_cases taken with writes | quiet
  · cases writes with
    | entered pc =>
        have idle : system.main.checked = false := alone (by rw [pc]; rfl)
        exact ⟨by simp [HttpdPc.checked], by simp [idle]⟩
    | aborted pc failed => exact checks_powerOn _
    | launchFailed pc failed => exact ⟨fun _ => Or.inr rfl, fun _ => rfl⟩
  · refine ⟨fun checked => ?_, fun checked => ?_⟩
    · unfold System.attemptAllowed
      rw [quiet.core.state]
      exact (entering checked).elim checks.httpd id
    · rw [quiet.core.state]
      exact checks.main (by rwa [← quiet.main])

theorem checks_mainStep {system next : System} {ret : EspErr} {outcome : NvsOutcome}
    (checks : ChecksHold system) (boot : BootQuiet system)
    (alone : undisturbed system (.main ret outcome))
    (taken : mainStep system ret outcome = some next) : ChecksHold next := by
  have entering := mainStep_checked taken
  rcases mainStep_cases taken with writes | quiet
  · cases writes with
    | bootEnded pc ended =>
        have idle := boot.unchecked (by simp [System.started, pc, MainPc.started])
        exact ⟨by simp [idle], by simp [MainPc.checked]⟩
    | bootConnected pc =>
        have idle := boot.unchecked (by simp [System.started, pc, MainPc.started])
        exact ⟨by simp [idle], by simp [MainPc.checked]⟩
    | bootFailed pc =>
        have idle := boot.unchecked (by simp [System.started, pc, MainPc.started])
        exact ⟨by simp [idle], by simp [MainPc.checked]⟩
    | restarted pc => exact checks_powerOn _
    | entered pc =>
        have idle : system.httpd.checked = false := alone (by rw [pc]; rfl)
        exact ⟨by simp [idle], by simp [MainPc.checked]⟩
    | launchFailed pc failed => exact ⟨fun _ => Or.inr rfl, fun _ => rfl⟩
  · refine ⟨fun checked => ?_, fun checked => ?_⟩
    · unfold System.attemptAllowed
      rw [quiet.core.state]
      exact checks.httpd (by rwa [← quiet.httpd])
    · rw [quiet.core.state]
      exact (entering checked).elim checks.main id

theorem checks_step {system next : System} {action : Action} (checks : ChecksHold system)
    (boot : BootQuiet system) (alone : undisturbed system action)
    (taken : step system action = some next) : ChecksHold next := by
  cases action with
  | httpd ret => exact checks_httpdStep checks alone taken
  | main ret outcome => exact checks_mainStep checks boot alone taken
  | disconnected reason outcome =>
      obtain ⟨-, rfl⟩ := disconnected_cases taken
      exact checks.of_failed rfl rfl (onDisconnected_state _ _ _)
  | gotIp outcome =>
      obtain ⟨-, rfl⟩ := gotIp_cases taken
      exact ⟨by simp [alone.1], by simp [alone.2]⟩
  | delayed index =>
      obtain ⟨main, httpd, state, _, _⟩ := delayedStep_frame taken
      exact checks.of_failed httpd main (Or.inl state)
  | init flash =>
      obtain ⟨pc, rfl⟩ := init_cases taken
      have idle := boot.unchecked (by simp [System.started, pc, MainPc.started])
      rcases initStep_cases system flash with ⟨_, ready⟩ | ⟨_, aborted⟩
      · rw [ready]
        exact ⟨by simp [idle], by simp [MainPc.checked]⟩
      · rw [aborted]
        exact checks_powerOn _
  | boot opens driver =>
      obtain ⟨pc, booted⟩ := boot_cases taken
      have idle := boot.unchecked (by simp [System.started, pc, MainPc.started])
      rcases booted with ⟨-, rfl⟩ | ⟨creds, -, rfl⟩
      · exact ⟨by simp [idle], by simp [MainPc.checked]⟩
      · exact ⟨by simp [idle], by simp [MainPc.checked]⟩
  | restart =>
      cases taken
      exact checks_powerOn _
  | getRoot | postApShutdown | postSave | getScan =>
      simp only [step] at taken
      split at taken
      · (try split at taken) <;> cases taken <;>
          first
          | exact checks
          | exact ⟨by simp [HttpdPc.checked], checks.main⟩
      · cases taken
  | tick | staStart | staConnected | scanDone | scanPublish =>
      simp only [step] at taken
      repeat' (split at taken)
      all_goals
        cases taken
        try exact checks.of_failed rfl rfl (Or.inl rfl)

/-- In a run without disturbed windows every attempt starts from AP_ONLY or FAILED. -/
theorem attempt_from_apOnly_or_failed (nvs : Nvs) (trace : List (System × Action))
    (final : System) (run : History nvs trace final)
    (alone : ∀ taken ∈ trace, undisturbed taken.1 taken.2) :
    ∀ taken ∈ trace, startsAttempt taken.1 taken.2 = true → taken.1.attemptAllowed := by
  rintro ⟨system, action⟩ member starts
  obtain ⟨front, back, split⟩ := List.append_of_mem member
  have checks : ChecksHold system :=
    run.invariant_before (fun _ system => ChecksHold system) undisturbed (checks_powerOn nvs)
      (fun _ _ _ _ earlier checks alone taken =>
        checks_step checks (bootQuiet_of_history earlier) alone taken) alone split
  cases action with
  | httpd ret => exact checks.httpd (HttpdPc.checked_of_entering starts)
  | main ret outcome => exact Or.inr (checks.main (MainPc.checked_of_entering starts))
  | _ => exact absurd starts (by simp [startsAttempt])

instance (system : System) : Decidable system.attemptAllowed :=
  inferInstanceAs (Decidable (_ ∨ _))

def cafe : CString := CString.ofBuffer (ascii "cafe")
def cafePass : CString := CString.ofBuffer (ascii "espresso1")

def cafeAttempt : List Action :=
  [.init .ready, .boot .ok noScan] ++ serveSave cafe cafePass false

def provision : List Action := cafeAttempt ++ [.gotIp .success]

theorem provision_from_apOnly :
    ∃ final : System, final.device.state = .connected ∧
      ∀ taken ∈ Transition.execTrace step (System.powerOn .erased) provision,
        startsAttempt taken.1 taken.2 = true → taken.1.attemptAllowed := by
  obtain ⟨final, run, connected⟩ := exists_history .erased provision
    (fun system => decide (system.device.state = .connected)) (by decide)
  exact ⟨final, of_decide_eq_true connected,
    attempt_from_apOnly_or_failed _ _ _ run (by decide)⟩

/-- After half a minute the first dashboard hit schedules the AP shutdown, the link drops, and a
second POST /save is in its 600 ms wait when the AP goes down and the main loop starts its own
attempt. -/
def overlappingAttempts : List Action :=
  provision ++ [.tick 31000000] ++ serveRoot ++ [.disconnected 200 .success] ++
    .postSave cafe cafePass false :: List.replicate 3 (Action.httpd .ok) ++
    [Action.delayed 0, Action.delayed 0] ++ List.replicate 6 (Action.main .ok .success) ++
    [Action.httpd .ok, Action.httpd .ok]

theorem attempt_overrides_attempt :
    ¬ ∀ nvs trace final, History nvs trace final →
      ∀ taken ∈ trace, startsAttempt taken.1 taken.2 = true → taken.1.attemptAllowed := by
  intro allowed
  obtain ⟨final, run, _⟩ := exists_history .erased overlappingAttempts (fun _ => true) (by decide)
  have overridden : ∃ taken ∈ Transition.execTrace step (System.powerOn .erased)
      overlappingAttempts, startsAttempt taken.1 taken.2 = true ∧
        ¬ taken.1.attemptAllowed := by decide
  obtain ⟨taken, member, starts, refused⟩ := overridden
  exact refused (allowed _ _ _ run taken member starts)

end HydroGovernor
