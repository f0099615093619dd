import HydroGovernor.Tasks

/-! When the device keeps a way back: an active setup AP, an established link, or stored
credentials that the main loop can reconnect with. -/

namespace HydroGovernor

open Firmware

def System.fallback (system : System) : Prop :=
  system.device.apActive = true ∨ system.device.nvs.readable = true

def System.recoverable (system : System) : Prop :=
  system.device.apActive = true ∨ system.device.state = .connected ∨
    system.device.nvs.readable = true

instance (system : System) : Decidable system.fallback :=
  inferInstanceAs (Decidable (_ ∨ _))

instance (system : System) : Decidable system.recoverable :=
  inferInstanceAs (Decidable (_ ∨ _ ∨ _))

/-- Required of a state only once wifi_manager_start has returned. -/
def System.recoverableOnceStarted (system : System) : Prop :=
  system.started = true → system.recoverable

/-- The link may only be given up with something to fall back on. -/
def System.mayLeaveConnected (system : System) : Prop :=
  system.device.state = .connected → system.fallback

/-- The second auth-class disconnect of an attempt, with the erase taking effect. -/
def System.erases (system : System) (reason : Reason) (outcome : NvsOutcome) : Prop :=
  system.device.state = .connecting ∧ 1 ≤ system.device.retryCount ∧
    authClass reason = true ∧ outcome.clears = true

instance (system : System) : Decidable system.mayLeaveConnected :=
  inferInstanceAs (Decidable (_ → _))

instance (system : System) (reason : Reason) (outcome : NvsOutcome) :
    Decidable (system.erases reason outcome) :=
  inferInstanceAs (Decidable (_ ∧ _ ∧ _ ∧ _))

def keepsHttpdFallback (system : System) (ret : EspErr) : Prop :=
  match system.httpd with
  | .connectEnter _ => system.mayLeaveConnected
  | .connectLaunch => ret ≠ .ok → system.mayLeaveConnected
  | _ => True

def keepsMainFallback (system : System) (ret : EspErr) : Prop :=
  match system.main with
  | .bootEnded connected => connected = true → system.recoverable
  | .reconnectEnter _ _ => system.mayLeaveConnected
  | .reconnectLaunch _ => ret ≠ .ok → system.mayLeaveConnected
  | _ => True

/-- The steps that take a fallback away are taken only when another one is left: stored
credentials are erased only under an active AP, the AP goes down only when there is a link
or a stored record, and a link is given up only over an AP or a stored record. -/
def keepsFallback (system : System) : Action → Prop
  | .disconnected reason outcome =>
      system.started = true →
        system.mayLeaveConnected ∧
          (system.erases reason outcome → system.device.apActive = true)
  | .httpd ret => system.started = true → keepsHttpdFallback system ret
  | .main ret _ => keepsMainFallback system ret
  | .delayed index =>
      system.started = true → system.delayed[index]? = some .clearActive →
        system.device.state = .connected ∨ system.device.nvs.readable = true
  | _ => True

instance (system : System) (ret : EspErr) : Decidable (keepsHttpdFallback system ret) := by
  rcases system with ⟨device, httpd, main, event, delayed, scheduled, calls, since⟩
  cases httpd with
  | connectEnter config => exact inferInstanceAs (Decidable (System.mayLeaveConnected _))
  | connectLaunch => exact inferInstanceAs (Decidable (_ → System.mayLeaveConnected _))
  | _ => exact isTrue trivial

instance (system : System) (ret : EspErr) : Decidable (keepsMainFallback system ret) := by
  rcases system with ⟨device, httpd, main, event, delayed, scheduled, calls, since⟩
  cases main with
  | bootEnded connected => exact inferInstanceAs (Decidable (_ → System.recoverable _))
  | reconnectEnter now config => exact inferInstanceAs (Decidable (System.mayLeaveConnected _))
  | reconnectLaunch now => exact inferInstanceAs (Decidable (_ → System.mayLeaveConnected _))
  | _ => exact isTrue trivial

instance (system : System) : (action : Action) → Decidable (keepsFallback system action)
  | .disconnected _ _ => inferInstanceAs (Decidable (_ → _ ∧ (_ → _)))
  | .httpd ret => inferInstanceAs (Decidable (_ → keepsHttpdFallback system ret))
  | .main ret _ => inferInstanceAs (Decidable (keepsMainFallback system ret))
  | .delayed _ => inferInstanceAs (Decidable (_ → _ → _ ∨ _))
  | .tick _ | .staStart | .staConnected | .gotIp _ | .scanDone | .scanPublish _ | .getRoot
  | .postApShutdown | .postSave .. | .getScan | .init _ | .boot .. | .restart => isTrue trivial

theorem fallback_or_connected {system : System} (safe : system.recoverable) :
    system.fallback ∨ system.device.state = .connected := by
  rcases safe with active | connected | readable
  · exact Or.inl (Or.inl active)
  · exact Or.inr connected
  · exact Or.inl (Or.inr readable)

theorem leaving_iff {system next : System} (safe : system.recoverable)
    (ap : next.device.apActive = system.device.apActive)
    (nvs : next.device.nvs = system.device.nvs) (left : next.device.state ≠ .connected) :
    next.recoverable ↔ system.mayLeaveConnected := by
  have reduced : next.recoverable ↔ system.fallback := by
    simp [System.recoverable, System.fallback, ap, nvs, left]
  rw [reduced]
  constructor
  · intro fallback _
    exact fallback
  · intro may
    rcases fallback_or_connected safe with fallback | connected
    · exact fallback
    · exact may connected

theorem recoverable_congr {system next : System} (safe : system.recoverable)
    (ap : next.device.apActive = system.device.apActive)
    (nvs : next.device.nvs = system.device.nvs)
    (state : next.device.state = system.device.state) : next.recoverable := by
  simpa [System.recoverable, ap, nvs, state] using safe

theorem disconnected_iff {system next : System} (safe : system.recoverable) (reason : Reason)
    (outcome : NvsOutcome) (after : next.device = system.device.onDisconnected reason outcome) :
    next.recoverable ↔ system.mayLeaveConnected ∧
      (system.erases reason outcome → system.device.apActive = true) := by
  by_cases connected : system.device.state = .connected
  · have kept : ¬ system.erases reason outcome := by simp [System.erases, connected]
    rw [Device.onDisconnected_connected connected] at after
    rw [leaving_iff safe] <;> simp [after, kept]
  have may : system.mayLeaveConnected := fun reached => absurd reached connected
  simp only [may, true_and]
  by_cases connecting : system.device.state = .connecting
  · by_cases unused : system.device.retryCount < 1
    · have kept : ¬ system.erases reason outcome := by
        rintro ⟨_, used, _⟩
        omega
      rw [Device.onDisconnected_retry connecting unused] at after
      simp only [kept, false_implies, iff_true]
      apply recoverable_congr safe <;> simp [after]
    · rw [Device.onDisconnected_final connecting unused] at after
      by_cases erases : authClass reason = true ∧ outcome.clears = true
      · have erased : system.erases reason outcome :=
          ⟨connecting, by omega, erases.1, erases.2⟩
        simp [System.recoverable, after, erased, erases.1, Device.attemptFailed,
          Device.clearPendingCredentials, nvsClear_of_clears erases.2]
      · have kept : ¬ system.erases reason outcome := by
          intro rejected
          exact erases ⟨rejected.2.2.1, rejected.2.2.2⟩
        have same : next.device.nvs = system.device.nvs := by
          by_cases auth : authClass reason = true
          · have fails : outcome.clears = false := by simpa [auth] using erases
            simp [after, auth, nvsClear_of_fails fails]
          · simp [after, auth]
        simp only [kept, false_implies, iff_true]
        rw [leaving_iff safe _ same]
        · exact may
        · simp [after, Device.attemptFailed]
        · simp [after, Device.attemptFailed, Device.clearPendingCredentials]
  · have kept : ¬ system.erases reason outcome := fun erases => connecting erases.1
    rw [Device.onDisconnected_other connected connecting] at after
    simp only [kept, false_implies, iff_true]
    apply recoverable_congr safe <;> simp [after]

theorem entered_iff {system next : System} (safe : system.recoverable)
    (after : next.device = system.device.enterConnecting) :
    next.recoverable ↔ system.mayLeaveConnected := by
  apply leaving_iff safe <;> simp [after, Device.enterConnecting]

theorem powerOn_recoverable (nvs : Nvs) : (System.powerOn nvs).recoverableOnceStarted := by
  intro started
  simp [System.started, System.powerOn, MainPc.started] at started

theorem once_started_iff {system : System} (started : system.started = true) :
    system.recoverableOnceStarted ↔ system.recoverable :=
  ⟨fun safe => safe started, fun safe _ => safe⟩

theorem httpd_step_iff {system next : System} {ret : EspErr} (safe : system.recoverable)
    (started : system.started = true) (taken : httpdStep system ret = some next) :
    next.recoverableOnceStarted ↔ keepsHttpdFallback system ret := by
  rcases httpdStep_cases taken with writes | quiet
  · cases writes with
    | entered pc =>
        refine Iff.trans (once_started_iff started) ?_
        rw [entered_iff safe rfl]
        simp [keepsHttpdFallback, pc]
    | aborted pc failed =>
        exact iff_of_true (powerOn_recoverable _) (by simp [keepsHttpdFallback, pc])
    | launchFailed pc failed =>
        refine Iff.trans (once_started_iff started) ?_
        rw [leaving_iff safe] <;>
          simp [keepsHttpdFallback, pc, failed, Device.connectSyncFailed]
  · obtain ⟨⟨state, ap, nvs⟩, main, notEntering, launched⟩ := quiet
    apply iff_of_true (fun _ => recoverable_congr safe ap nvs state)
    unfold keepsHttpdFallback
    split
    · rename_i config pc
      exact absurd pc (notEntering config)
    · rename_i pc
      intro failed
      exact absurd (launched pc) failed
    · trivial

theorem main_step_iff {system next : System} {ret : EspErr} {outcome : NvsOutcome}
    (safe : system.recoverableOnceStarted) (taken : mainStep system ret outcome = some next) :
    next.recoverableOnceStarted ↔ keepsMainFallback system ret := by
  rcases mainStep_cases taken with writes | quiet
  · cases writes with
    | bootEnded pc ended =>
        refine iff_of_true (fun started => ?_) (by simp [keepsMainFallback, pc])
        simp [System.started, MainPc.started] at started
    | bootConnected pc =>
        rw [once_started_iff rfl]
        simp [keepsMainFallback, pc, System.recoverable]
    | bootFailed pc =>
        refine iff_of_true (fun started => ?_) (by simp [keepsMainFallback, pc])
        simp [System.started, MainPc.started] at started
    | restarted pc =>
        exact iff_of_true (powerOn_recoverable _) (by simp [keepsMainFallback, pc])
    | entered pc =>
        have started : system.started = true := by simp [System.started, pc, MainPc.started]
        rw [once_started_iff rfl, entered_iff (safe started) rfl]
        simp [keepsMainFallback, pc]
    | launchFailed pc failed =>
        have started : system.started = true := by simp [System.started, pc, MainPc.started]
        rw [once_started_iff rfl, leaving_iff (safe started)] <;>
          simp [keepsMainFallback, pc, failed, Device.reconnectSyncFailed]
  · obtain ⟨⟨state, ap, nvs⟩, _, before, after, notEntering, launched⟩ := quiet
    apply iff_of_true (fun _ => recoverable_congr (safe before) ap nvs state)
    unfold keepsMainFallback
    split
    · rename_i since pc
      simp [System.started, pc, MainPc.started] at before
    · rename_i now config pc
      exact absurd pc (notEntering now config)
    · rename_i now pc
      intro failed
      exact absurd (launched now pc) failed
    · trivial

theorem delayed_step_iff {system next : System} {index : Nat} (safe : system.recoverable)
    (started : system.started = true) (taken : step system (.delayed index) = some next) :
    next.recoverableOnceStarted ↔ (system.delayed[index]? = some .clearActive →
      system.device.state = .connected ∨ system.device.nvs.readable = true) := by
  cases slot : system.delayed[index]? with
  | none => simp [step, slot] at taken
  | some pc =>
      cases pc with
      | clearActive =>
          simp only [step, slot, delayedStep, Option.some.injEq] at taken
          subst taken
          refine Iff.trans (once_started_iff started) ?_
          simp [System.recoverable]
      | testActive | callback | unmark =>
          simp only [step, slot, delayedStep, Option.some.injEq] at taken
          subst taken
          exact iff_of_true (fun _ => recoverable_congr safe rfl rfl rfl) (by simp)

/-- One step keeps the device recoverable exactly when it keeps a fallback. -/
theorem step_recoverable_iff {system next : System} {action : Action}
    (safe : system.recoverableOnceStarted) (taken : step system action = some next) :
    next.recoverableOnceStarted ↔ keepsFallback system action := by
  have kept (core : SameCore system.device next.device) (main : next.main = system.main) :
      next.recoverableOnceStarted := by
    intro started
    have before : system.started = true := by simpa [System.started, main] using started
    exact recoverable_congr (safe before) core.apActive core.nvs core.state
  have waiting (main : next.main = system.main) (off : system.started = false) :
      next.recoverableOnceStarted := by
    intro started
    simp only [System.started, main] at started off
    rw [off] at started
    cases started
  cases action with
  | disconnected reason outcome =>
      obtain ⟨-, rfl⟩ := disconnected_cases taken
      cases started : system.started with
      | false => exact iff_of_true (waiting rfl started) (by simp [keepsFallback, started])
      | true =>
          refine Iff.trans (once_started_iff started) ?_
          rw [disconnected_iff (safe started) reason outcome rfl]
          simp [keepsFallback, started]
  | gotIp outcome =>
      obtain ⟨-, rfl⟩ := gotIp_cases taken
      exact iff_of_true (fun _ => Or.inr (Or.inl rfl)) trivial
  | httpd ret =>
      cases started : system.started with
      | false =>
          refine iff_of_true ?_ (by simp [keepsFallback, started])
          rcases httpdStep_main taken with same | rfl
          · exact waiting same started
          · exact powerOn_recoverable _
      | true =>
          rw [httpd_step_iff (safe started) started taken]
          simp [keepsFallback, started]
  | main ret outcome => exact main_step_iff safe taken
  | delayed index =>
      cases started : system.started with
      | false =>
          exact iff_of_true (waiting (delayedStep_frame taken).1 started)
            (by simp [keepsFallback, started])
      | true =>
          rw [delayed_step_iff (safe started) started taken]
          simp [keepsFallback, started]
  | init flash =>
      obtain ⟨pc, rfl⟩ := init_cases taken
      refine iff_of_true ?_ trivial
      rcases initStep_cases system flash with ⟨_, ready⟩ | ⟨_, aborted⟩
      · rw [ready]
        intro started
        simp [System.started, MainPc.started] at started
      · rw [aborted]
        exact powerOn_recoverable _
  | boot opens driver =>
      rcases (boot_cases taken).2 with ⟨-, rfl⟩ | ⟨creds, -, rfl⟩
      · exact iff_of_true (fun _ => Or.inl rfl) trivial
      · apply iff_of_true ?_ trivial
        intro started
        simp [System.started, MainPc.started] at started
  | restart =>
      cases taken
      exact iff_of_true (powerOn_recoverable _) trivial
  | _ =>
      simp only [step] at taken
      repeat' (split at taken)
      all_goals
        cases taken
        try exact iff_of_true (kept ⟨rfl, rfl, rfl⟩ rfl) trivial

/-- Every state of a run is recoverable exactly when every step of it keeps a fallback. -/
theorem recoverable_iff_keepsFallback (nvs : Nvs) (trace : List (System × Action))
    (final : System) (run : History nvs trace final) :
    ((∀ taken ∈ trace, taken.1.recoverableOnceStarted) ∧ final.recoverableOnceStarted) ↔
      ∀ taken ∈ trace, keepsFallback taken.1 taken.2 :=
  Transition.Run.safe_iff (powerOn_recoverable nvs)
    (fun _ _ _ _ _ safe taken => step_recoverable_iff safe taken) run

def bootAndDrop : List Action := bootStored ++ [.tick 3600000000, .disconnected 200 .success]

theorem bootAndDrop_recoverable :
    ∃ final : System, final.device.state = .connecting ∧
      ((∀ taken ∈ Transition.execTrace step (System.powerOn homeNvs)
        (bootAndDrop ++ mainReconnects), taken.1.recoverableOnceStarted) ∧
          final.recoverableOnceStarted) := by
  obtain ⟨final, run, connecting⟩ := exists_history homeNvs (bootAndDrop ++ mainReconnects)
    (fun system => decide (system.device.state = .connecting)) (by decide)
  exact ⟨final, of_decide_eq_true connecting,
    (recoverable_iff_keepsFallback _ _ _ run).mpr (by decide)⟩

/-- The router's password was changed while the device was up: the reconnect fails twice
with an auth-class reason, the record is erased, and the AP stays down. -/
theorem stranded_after_password_change :
    ¬ ∀ nvs trace final, History nvs trace final → final.recoverableOnceStarted := by
  intro recoverable
  obtain ⟨final, run, stranded⟩ := exists_history homeNvs
    (bootAndDrop ++ mainReconnects ++
      [.disconnected wifiReason4WayHandshakeTimeout .success,
        .disconnected wifiReason4WayHandshakeTimeout .success])
    (fun system => system.started && !decide system.recoverable) (by decide)
  have safe := recoverable _ _ _ run
  simp only [Bool.and_eq_true, Bool.not_eq_true', decide_eq_false_iff_not] at stranded
  exact stranded.2 (safe stranded.1)

end HydroGovernor
