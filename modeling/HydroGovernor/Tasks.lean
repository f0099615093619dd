import HydroGovernor.Library.Transition
import HydroGovernor.WifiManager

/-! The tasks that share the module state: the event task, the httpd task, the main task and
the delayed AP-shutdown tasks, interleaved one piece of code at a time. -/

namespace HydroGovernor

open Firmware

/-- Where the httpd task is in the request it serves; each constructor names the piece of
code that runs next. -/
inductive HttpdPc where
  | idle
  | saveAccepted (ssid pass : CString) (isOpen : Bool)
  | connectLookup (ssid pass : CString) (isOpen : Bool)
  | connectStage (ssid pass : CString) (isOpen : Bool) (pointer : Option Nat)
  | connectAlign (config : WifiStaConfig) (pointer : Option Nat)
  | connectEnter (config : WifiStaConfig)
  | connectConfigure (config : WifiStaConfig)
  | connectLaunch
  | shutdownTestActive
  | shutdownTestScheduled
  | shutdownMark
  | shutdownSpawn
  | shutdownUnmark
  | scanMark
  | scanDriver
  deriving DecidableEq, Repr

/-- Where app_main is. `now` is the loop's local of that name, and `connected` is
BIT_STA_CONNECTED as xEventGroupWaitBits returns it. -/
inductive MainPc where
  | init
  | boot
  | bootWait (since : Nat)
  | bootEnded (connected : Bool)
  | restarting
  | loop
  | testActive (now : Nat)
  | testFailed (now : Nat)
  | reconnectRead (now : Nat)
  | reconnectTarget (now : Nat) (creds : Credentials)
  | reconnectEnter (now : Nat) (config : WifiStaConfig)
  | reconnectConfigure (now : Nat) (config : WifiStaConfig)
  | reconnectLaunch (now : Nat)
  deriving DecidableEq, Repr

inductive EventPc where
  | idle
  | scanPublish
  deriving DecidableEq, Repr

/-- Where one delayed_ap_shutdown_task is. -/
inductive DelayedPc where
  | testActive
  | clearActive
  | callback
  | unmark
  deriving DecidableEq, Repr

structure System where
  device : Device
  httpd : HttpdPc
  main : MainPc
  event : EventPc
  delayed : List DelayedPc
  apShutdownScheduled : Bool
  shutdownCalls : Nat
  lastReconnectUs : Nat
  deriving DecidableEq, Repr

def System.powerOn (nvs : Nvs) : System where
  device := Device.powerOn nvs
  httpd := .idle
  main := .init
  event := .idle
  delayed := []
  apShutdownScheduled := false
  shutdownCalls := 0
  lastReconnectUs := 0

def MainPc.started : MainPc → Bool
  | .init => false
  | .boot => false
  | .bootWait _ => false
  | .bootEnded _ => false
  | .restarting => false
  | _ => true

def System.started (system : System) : Bool := system.main.started

inductive Action where
  | tick (us : Nat)
  | staStart
  | staConnected
  | disconnected (reason : Reason) (outcome : NvsOutcome)
  | gotIp (outcome : NvsOutcome)
  | scanDone
  | scanPublish (driver : ScanDriver)
  | getRoot
  | postApShutdown
  | postSave (ssid pass : CString) (isOpen : Bool)
  | getScan
  | httpd (ret : EspErr)
  | init (flash : FlashOutcome)
  | boot (opens : EspErr) (driver : ScanDriver)
  | main (ret : EspErr) (outcome : NvsOutcome)
  | delayed (index : Nat)
  | restart
  deriving DecidableEq, Repr

def bootWaitUs : Nat := 15000000
def reconnectIntervalUs : Nat := 30000000

/-- The next piece of the request being served. `ret` answers the driver or kernel call
that the piece makes, if it makes one. -/
def httpdStep (system : System) (ret : EspErr) : Option System :=
  let device := system.device
  match system.httpd with
  | .idle => none
  | .saveAccepted ssid pass isOpen =>
      -- wifi_manager_connect looks at the state a second time
      if device.state = .apOnly ∨ device.state = .failed then
        some { system with httpd := .connectLookup ssid pass isOpen }
      else some { system with httpd := .idle }
  | .connectLookup ssid pass isOpen =>
      some { system with
        httpd := .connectStage ssid pass isOpen (findScannedAp device.scan ssid) }
  | .connectStage ssid pass isOpen pointer =>
      let found := device.scan.deref pointer
      some { system with
        device := device.stageAttempt ssid pass found
        httpd := .connectAlign (Device.attemptConfig ssid pass isOpen found) pointer }
  | .connectAlign config pointer =>
      some { system with
        device := device.alignChannel pointer
        httpd := .connectEnter config }
  | .connectEnter config =>
      some { system with device := device.enterConnecting, httpd := .connectConfigure config }
  | .connectConfigure config =>
      -- ESP_ERROR_CHECK aborts, and the device starts again
      if ret = .ok then
        some { system with device := device.setStaConfig config, httpd := .connectLaunch }
      else some (System.powerOn device.nvs)
  | .connectLaunch =>
      if ret = .ok then some { system with httpd := .idle }
      else some { system with device := device.connectSyncFailed, httpd := .idle }
  | .shutdownTestActive =>
      if device.apActive then some { system with httpd := .shutdownTestScheduled }
      else some { system with httpd := .idle }
  | .shutdownTestScheduled =>
      if system.apShutdownScheduled then some { system with httpd := .idle }
      else some { system with httpd := .shutdownMark }
  | .shutdownMark =>
      some { system with apShutdownScheduled := true, httpd := .shutdownSpawn }
  | .shutdownSpawn =>
      if ret = .ok then
        some { system with delayed := system.delayed ++ [.testActive], httpd := .idle }
      else some { system with httpd := .shutdownUnmark }
  | .shutdownUnmark => some { system with apShutdownScheduled := false, httpd := .idle }
  | .scanMark => some { system with device := device.markScanning, httpd := .scanDriver }
  | .scanDriver =>
      if ret = .ok then some { system with httpd := .idle }
      else some { system with device := device.scanStartFailed ret, httpd := .idle }

/-- wifi_manager_init; a result other than ESP_OK aborts, and the device starts again. -/
def initStep (system : System) (flash : FlashOutcome) : System :=
  let (ret, nvs) := nvsInit flash system.device.nvs
  if ret = .ok then { system with device := { system.device with nvs := nvs }, main := .boot }
  else System.powerOn nvs

/-- The next piece of app_main once the boot decision is made. -/
def mainStep (system : System) (ret : EspErr) (outcome : NvsOutcome) : Option System :=
  let device := system.device
  match system.main with
  | .init => none
  | .boot => none
  | .bootWait since =>
      -- the kernel keeps the bits of this moment; events go on before app_main runs again
      if device.bitStaConnected ∨ device.bitStaFailed ∨ since + bootWaitUs ≤ device.clock then
        some { system with main := .bootEnded device.bitStaConnected }
      else none
  | .bootEnded connected =>
      if connected then some { system with main := .loop }
      else
        some { system with
          device := { device with nvs := nvsClear outcome device.nvs }
          main := .restarting }
  | .restarting => some (System.powerOn device.nvs)
  | .loop => some { system with main := .testActive device.clock }
  | .testActive now =>
      if device.apActive then some { system with main := .loop }
      else some { system with main := .testFailed now }
  | .testFailed now =>
      if device.state = .failed ∧ system.lastReconnectUs + reconnectIntervalUs ≤ now then
        some { system with main := .reconnectRead now }
      else some { system with main := .loop }
  | .reconnectRead now =>
      match nvsRead outcome.opens device.nvs with
      | some creds => some { system with main := .reconnectTarget now creds }
      | none => some { system with main := .loop, lastReconnectUs := now }
  | .reconnectTarget now creds =>
      some { system with
        device := device.targetStored creds
        main := .reconnectEnter now (Device.storedConfig creds) }
  | .reconnectEnter now config =>
      some { system with
        device := device.enterConnecting, main := .reconnectConfigure now config }
  | .reconnectConfigure now config =>
      -- the result of esp_wifi_set_config is not looked at
      if ret = .ok then
        some { system with device := device.setStaConfig config, main := .reconnectLaunch now }
      else some { system with main := .reconnectLaunch now }
  | .reconnectLaunch now =>
      if ret = .ok then some { system with main := .loop, lastReconnectUs := now }
      else
        some { system with
          device := device.reconnectSyncFailed, main := .loop, lastReconnectUs := now }

/-- The next piece of one delayed_ap_shutdown_task; `none` when the task deletes itself. -/
def delayedStep (system : System) : DelayedPc → System × Option DelayedPc
  | .testActive =>
      (system, some (if system.device.apActive then .clearActive else .unmark))
  | .clearActive =>
      ({ system with device := { system.device with apActive := false } }, some .callback)
  | .callback => ({ system with shutdownCalls := system.shutdownCalls + 1 }, some .unmark)
  | .unmark => ({ system with apShutdownScheduled := false }, none)

/-- Requests are served only once app_main has started the web server. -/
def System.accepts (system : System) : Bool :=
  system.started && decide (system.httpd = .idle)

def step (system : System) : Action → Option System
  | .tick us =>
      some { system with device := { system.device with clock := system.device.clock + us } }
  | .staStart => if system.event = .idle then some system else none
  | .staConnected => if system.event = .idle then some system else none
  | .disconnected reason outcome =>
      if system.event = .idle then
        some { system with device := system.device.onDisconnected reason outcome }
      else none
  | .gotIp outcome =>
      if system.event = .idle then
        some { system with device := system.device.onGotIp outcome }
      else none
  | .scanDone =>
      if system.event = .idle then
        if system.device.scanning then
          some { system with device := system.device.clearScanning, event := .scanPublish }
        else some system
      else none
  | .scanPublish driver =>
      if system.event = .scanPublish then
        some { system with device := system.device.publishScan driver, event := .idle }
      else none
  | .getRoot =>
      if system.accepts then
        if system.device.state = .connected then
          some { system with httpd := .shutdownTestActive }
        else some system
      else none
  | .postApShutdown =>
      if system.accepts then some { system with httpd := .shutdownTestActive } else none
  | .postSave ssid pass isOpen =>
      if system.accepts then
        if system.device.state = .connecting ∨ system.device.state = .connected then some system
        else some { system with httpd := .saveAccepted ssid pass isOpen }
      else none
  | .getScan =>
      if system.accepts then
        if system.device.scanning then some system else some { system with httpd := .scanMark }
      else none
  | .httpd ret => httpdStep system ret
  | .init flash => if system.main = .init then some (initStep system flash) else none
  | .boot opens driver =>
      if system.main = .boot then
        match nvsRead opens system.device.nvs with
        | none => some { system with device := system.device.startAp driver, main := .loop }
        | some creds =>
            some { system with
              device := system.device.startSta creds
              main := .bootWait system.device.clock }
      else none
  | .main ret outcome => mainStep system ret outcome
  | .delayed index =>
      match system.delayed[index]? with
      | none => none
      | some pc =>
          match delayedStep system pc with
          | (next, some later) => some { next with delayed := next.delayed.set index later }
          | (next, none) => some { next with delayed := next.delayed.eraseIdx index }
  | .restart => some (System.powerOn system.device.nvs)

/-- The three facts that decide whether the device can be reached again are untouched. -/
structure SameCore (before after : Device) : Prop where
  state : after.state = before.state
  apActive : after.apActive = before.apActive
  nvs : after.nvs = before.nvs

theorem SameCore.refl (device : Device) : SameCore device device := ⟨rfl, rfl, rfl⟩

theorem SameCore.alignChannel (device : Device) (pointer : Option Nat) :
    SameCore device (device.alignChannel pointer) := by
  obtain ⟨channel, aligned⟩ := device.alignChannel_frame pointer
  rw [aligned]
  exact ⟨rfl, rfl, rfl⟩

/-- Pieces of a request that write s_state, or restart the device. -/
inductive HttpdWrites (system : System) (ret : EspErr) : System → Prop where
  | entered {config : WifiStaConfig} (pc : system.httpd = .connectEnter config) :
      HttpdWrites system ret { system with
        device := system.device.enterConnecting, httpd := .connectConfigure config }
  | aborted {config : WifiStaConfig} (pc : system.httpd = .connectConfigure config)
      (failed : ret ≠ .ok) : HttpdWrites system ret (System.powerOn system.device.nvs)
  | launchFailed (pc : system.httpd = .connectLaunch) (failed : ret ≠ .ok) :
      HttpdWrites system ret { system with
        device := system.device.connectSyncFailed, httpd := .idle }

/-- Every other piece leaves the core and app_main alone. -/
structure HttpdQuiet (system : System) (ret : EspErr) (next : System) : Prop where
  core : SameCore system.device next.device
  main : next.main = system.main
  notEntering : ∀ config, system.httpd ≠ .connectEnter config
  launched : system.httpd = .connectLaunch → ret = .ok

theorem httpdStep_cases {system next : System} {ret : EspErr}
    (taken : httpdStep system ret = some next) :
    HttpdWrites system ret next ∨ HttpdQuiet system ret next := by
  have quiet (core : SameCore system.device next.device) (main : next.main = system.main)
      (notEntering : ∀ config, system.httpd ≠ .connectEnter config)
      (launched : system.httpd = .connectLaunch → ret = .ok) :
      HttpdWrites system ret next ∨ HttpdQuiet system ret next :=
    Or.inr ⟨core, main, notEntering, launched⟩
  unfold httpdStep at taken
  cases pc : system.httpd with
  | connectEnter config =>
      simp only [pc, Option.some.injEq] at taken
      subst taken
      exact Or.inl (.entered pc)
  | connectConfigure config =>
      simp only [pc] at taken
      split at taken <;> cases taken
      · exact quiet ⟨rfl, rfl, rfl⟩ rfl (by simp [pc]) (by simp [pc])
      · rename_i failed
        exact Or.inl (.aborted pc failed)
  | connectLaunch =>
      simp only [pc] at taken
      split at taken <;> cases taken
      · rename_i ok
        exact quiet ⟨rfl, rfl, rfl⟩ rfl (by simp [pc]) (fun _ => ok)
      · rename_i failed
        exact Or.inl (.launchFailed pc failed)
  | connectAlign config pointer =>
      simp only [pc, Option.some.injEq] at taken
      subst taken
      exact quiet (SameCore.alignChannel _ _) rfl (by simp [pc]) (by simp [pc])
  | _ =>
      simp only [pc] at taken
      (try split at taken) <;> cases taken <;>
        exact quiet ⟨rfl, rfl, rfl⟩ rfl (by simp [pc]) (by simp [pc])

theorem httpdStep_main {system next : System} {ret : EspErr}
    (taken : httpdStep system ret = some next) :
    next.main = system.main ∨ next = System.powerOn system.device.nvs := by
  rcases httpdStep_cases taken with writes | quiet
  · cases writes with
    | entered => exact Or.inl rfl
    | aborted => exact Or.inr rfl
    | launchFailed => exact Or.inl rfl
  · exact Or.inl quiet.main

theorem delayedStep_writes {system next : System} {index : Nat}
    (taken : step system (.delayed index) = some next) :
    ∃ active delayed scheduled calls, next = { system with
      device := { system.device with apActive := active }
      delayed := delayed
      apShutdownScheduled := scheduled
      shutdownCalls := calls } := by
  simp only [step] at taken
  split at taken
  · cases taken
  · rename_i pc _
    cases pc <;> (simp only [delayedStep] at taken; cases taken; exact ⟨_, _, _, _, rfl⟩)

theorem delayedStep_device {system next : System} {index : Nat}
    (taken : step system (.delayed index) = some next) :
    next.main = system.main ∧ next.httpd = system.httpd ∧
      ∃ active, next.device = { system.device with apActive := active } := by
  obtain ⟨active, _, _, _, rfl⟩ := delayedStep_writes taken
  exact ⟨rfl, rfl, active, rfl⟩

theorem delayedStep_frame {system next : System} {index : Nat}
    (taken : step system (.delayed index) = some next) :
    next.main = system.main ∧ next.httpd = system.httpd ∧
      next.device.state = system.device.state ∧ next.device.nvs = system.device.nvs ∧
      next.device.pendingSsid = system.device.pendingSsid := by
  obtain ⟨main, httpd, active, device⟩ := delayedStep_device taken
  rw [device]
  exact ⟨main, httpd, rfl, rfl, rfl⟩

theorem initStep_cases (system : System) (flash : FlashOutcome) :
    ((nvsInit flash system.device.nvs).1 = .ok ∧ initStep system flash =
        { system with
          device := { system.device with nvs := (nvsInit flash system.device.nvs).2 }
          main := .boot }) ∨
      ((nvsInit flash system.device.nvs).1 ≠ .ok ∧
        initStep system flash = System.powerOn (nvsInit flash system.device.nvs).2) := by
  unfold initStep
  by_cases ok : (nvsInit flash system.device.nvs).1 = .ok
  · exact Or.inl ⟨ok, by simp [ok]⟩
  · exact Or.inr ⟨ok, by simp [ok]⟩

theorem init_cases {system next : System} {flash : FlashOutcome}
    (taken : step system (.init flash) = some next) :
    system.main = .init ∧ next = initStep system flash := by
  simp only [step] at taken
  split at taken
  · rename_i pc
    exact ⟨pc, (Option.some.inj taken).symm⟩
  · cases taken

theorem disconnected_cases {system next : System} {reason : Reason} {outcome : NvsOutcome}
    (taken : step system (.disconnected reason outcome) = some next) :
    system.event = .idle ∧
      next = { system with device := system.device.onDisconnected reason outcome } := by
  simp only [step] at taken
  split at taken
  · rename_i idle
    exact ⟨idle, (Option.some.inj taken).symm⟩
  · cases taken

theorem gotIp_cases {system next : System} {outcome : NvsOutcome}
    (taken : step system (.gotIp outcome) = some next) :
    system.event = .idle ∧ next = { system with device := system.device.onGotIp outcome } := by
  simp only [step] at taken
  split at taken
  · rename_i idle
    exact ⟨idle, (Option.some.inj taken).symm⟩
  · cases taken

theorem boot_cases {system next : System} {opens : EspErr} {driver : ScanDriver}
    (taken : step system (.boot opens driver) = some next) :
    system.main = .boot ∧
      ((nvsRead opens system.device.nvs = none ∧
          next = { system with device := system.device.startAp driver, main := .loop }) ∨
        ∃ creds, nvsRead opens system.device.nvs = some creds ∧
          next = { system with
            device := system.device.startSta creds
            main := .bootWait system.device.clock }) := by
  simp only [step] at taken
  split at taken
  · rename_i booting
    refine ⟨booting, ?_⟩
    split at taken
    · rename_i read
      exact Or.inl ⟨read, (Option.some.inj taken).symm⟩
    · rename_i creds read
      exact Or.inr ⟨creds, read, (Option.some.inj taken).symm⟩
  · cases taken

/-- A bit is set, or the 15 s are over. -/
def System.bootWaitEnds (system : System) (since : Nat) : Prop :=
  system.device.bitStaConnected = true ∨ system.device.bitStaFailed = true ∨
    since + bootWaitUs ≤ system.device.clock

/-- Pieces of app_main that write s_state, erase NVS, or end the boot. -/
inductive MainWrites (system : System) (ret : EspErr) (outcome : NvsOutcome) : System → Prop where
  | bootEnded {since : Nat} (pc : system.main = .bootWait since)
      (ended : system.bootWaitEnds since) :
      MainWrites system ret outcome { system with
        main := .bootEnded system.device.bitStaConnected }
  | bootConnected (pc : system.main = .bootEnded true) :
      MainWrites system ret outcome { system with main := .loop }
  | bootFailed (pc : system.main = .bootEnded false) :
      MainWrites system ret outcome { system with
        device := { system.device with nvs := nvsClear outcome system.device.nvs }
        main := .restarting }
  | restarted (pc : system.main = .restarting) :
      MainWrites system ret outcome (System.powerOn system.device.nvs)
  | entered {now : Nat} {config : WifiStaConfig} (pc : system.main = .reconnectEnter now config) :
      MainWrites system ret outcome { system with
        device := system.device.enterConnecting, main := .reconnectConfigure now config }
  | launchFailed {now : Nat} (pc : system.main = .reconnectLaunch now) (failed : ret ≠ .ok) :
      MainWrites system ret outcome { system with
        device := system.device.reconnectSyncFailed, main := .loop, lastReconnectUs := now }

structure MainQuiet (system : System) (ret : EspErr) (next : System) : Prop where
  core : SameCore system.device next.device
  httpd : next.httpd = system.httpd
  startedBefore : system.started = true
  startedAfter : next.started = true
  notEntering : ∀ now config, system.main ≠ .reconnectEnter now config
  launched : ∀ now, system.main = .reconnectLaunch now → ret = .ok

theorem mainStep_cases {system next : System} {ret : EspErr} {outcome : NvsOutcome}
    (taken : mainStep system ret outcome = some next) :
    MainWrites system ret outcome next ∨ MainQuiet system ret next := by
  have quiet (core : SameCore system.device next.device) (httpd : next.httpd = system.httpd)
      (before : system.started = true) (after : next.started = true)
      (notEntering : ∀ now config, system.main ≠ .reconnectEnter now config)
      (launched : ∀ now, system.main = .reconnectLaunch now → ret = .ok) :
      MainWrites system ret outcome next ∨ MainQuiet system ret next :=
    Or.inr ⟨core, httpd, before, after, notEntering, launched⟩
  unfold mainStep at taken
  cases pc : system.main with
  | init | boot => simp [pc] at taken
  | bootWait since =>
      simp only [pc] at taken
      split at taken
      · rename_i ended
        cases taken
        exact Or.inl (.bootEnded pc ended)
      · cases taken
  | bootEnded connected =>
      simp only [pc] at taken
      cases connected with
      | true =>
          cases taken
          exact Or.inl (.bootConnected pc)
      | false =>
          cases taken
          exact Or.inl (.bootFailed pc)
  | restarting =>
      simp only [pc, Option.some.injEq] at taken
      subst taken
      exact Or.inl (.restarted pc)
  | reconnectEnter now config =>
      simp only [pc, Option.some.injEq] at taken
      subst taken
      exact Or.inl (.entered pc)
  | reconnectLaunch now =>
      simp only [pc] at taken
      split at taken <;> cases taken
      · rename_i ok
        exact quiet ⟨rfl, rfl, rfl⟩ rfl (by simp [System.started, pc, MainPc.started]) rfl
          (by simp [pc]) (fun _ _ => ok)
      · rename_i failed
        exact Or.inl (.launchFailed pc failed)
  | _ =>
      simp only [pc] at taken
      (try split at taken) <;> cases taken <;>
        exact quiet ⟨rfl, rfl, rfl⟩ rfl (by simp [System.started, pc, MainPc.started]) rfl
          (by simp [pc]) (by simp [pc])

theorem accepts_iff {system : System} :
    system.accepts = true ↔ system.started = true ∧ system.httpd = .idle := by
  simp [System.accepts]

/-- Before wifi_manager_start has returned, no request is served and nothing is pending. -/
structure BootQuiet (system : System) : Prop where
  httpd : system.started = false → system.httpd = .idle
  pending : system.started = false → system.device.pendingSsid.bytes = []

theorem bootQuiet_powerOn (nvs : Nvs) : BootQuiet (System.powerOn nvs) :=
  ⟨fun _ => rfl, fun _ => rfl⟩

theorem bootQuiet_started {system : System} (started : system.started = true) :
    BootQuiet system :=
  ⟨fun off => absurd (started.symm.trans off) (by simp),
    fun off => absurd (started.symm.trans off) (by simp)⟩

theorem BootQuiet.started_of_busy {system : System} (quiet : BootQuiet system)
    (busy : system.httpd ≠ .idle) : system.started = true := by
  by_contra off
  exact busy (quiet.httpd (by simpa using off))

theorem BootQuiet.congr {system next : System} (quiet : BootQuiet system)
    (main : next.main = system.main) (httpd : next.httpd = system.httpd)
    (pending : system.device.pendingSsid.bytes = [] → next.device.pendingSsid.bytes = []) :
    BootQuiet next where
  httpd off := httpd.trans (quiet.httpd (by simpa [System.started, main] using off))
  pending off := pending (quiet.pending (by simpa [System.started, main] using off))

theorem bootQuiet_mainStep {system next : System} {ret : EspErr} {outcome : NvsOutcome}
    (quiet : BootQuiet system) (taken : mainStep system ret outcome = some next) :
    BootQuiet next := by
  rcases mainStep_cases taken with writes | still
  · cases writes with
    | bootEnded pc ended =>
        have off : system.started = false := by simp [System.started, pc, MainPc.started]
        exact ⟨fun _ => quiet.httpd off, fun _ => quiet.pending off⟩
    | bootConnected pc => exact bootQuiet_started rfl
    | bootFailed pc =>
        have off : system.started = false := by simp [System.started, pc, MainPc.started]
        exact ⟨fun _ => quiet.httpd off, fun _ => quiet.pending off⟩
    | restarted pc => exact bootQuiet_powerOn _
    | entered pc => exact bootQuiet_started rfl
    | launchFailed pc failed => exact bootQuiet_started rfl
  · exact bootQuiet_started still.startedAfter

theorem bootQuiet_step {system next : System} {action : Action} (quiet : BootQuiet system)
    (taken : step system action = some next) : BootQuiet next := by
  cases action with
  | httpd ret =>
      have started := quiet.started_of_busy (fun idle => by simp [step, httpdStep, idle] at taken)
      rcases httpdStep_main taken with same | rfl
      · exact bootQuiet_started (by simpa [System.started, same] using started)
      · exact bootQuiet_powerOn _
  | main ret outcome => exact bootQuiet_mainStep quiet taken
  | disconnected reason outcome =>
      obtain ⟨-, rfl⟩ := disconnected_cases taken
      exact quiet.congr rfl rfl
        (fun nothing => Device.onDisconnected_nothing_pending nothing reason outcome)
  | gotIp outcome =>
      obtain ⟨-, rfl⟩ := gotIp_cases taken
      exact quiet.congr rfl rfl (fun _ => Device.onGotIp_nothing_pending _ outcome)
  | delayed index =>
      obtain ⟨main, httpd, _, _, pending⟩ := delayedStep_frame taken
      exact quiet.congr main httpd (fun nothing => by rw [pending, nothing])
  | init flash =>
      obtain ⟨pc, rfl⟩ := init_cases taken
      have off : system.started = false := by simp [System.started, pc, MainPc.started]
      rcases initStep_cases system flash with ⟨_, ready⟩ | ⟨_, aborted⟩
      · rw [ready]
        exact ⟨fun _ => quiet.httpd off, fun _ => quiet.pending off⟩
      · rw [aborted]
        exact bootQuiet_powerOn _
  | boot opens driver =>
      obtain ⟨pc, booted⟩ := boot_cases taken
      have off : system.started = false := by simp [System.started, pc, MainPc.started]
      rcases booted with ⟨-, rfl⟩ | ⟨creds, -, rfl⟩
      · exact bootQuiet_started rfl
      · exact ⟨fun _ => quiet.httpd off, fun _ => quiet.pending off⟩
  | restart =>
      cases taken
      exact bootQuiet_powerOn _
  | getRoot | postApShutdown | postSave | getScan =>
      simp only [step] at taken
      split at taken
      · rename_i accepts
        (try split at taken) <;> cases taken <;>
          first
          | exact quiet
          | exact bootQuiet_started (accepts_iff.mp accepts).1
      · cases taken
  | tick | staStart | staConnected | scanDone | scanPublish =>
      simp only [step] at taken
      repeat' (split at taken)
      all_goals
        cases taken
        try exact quiet.congr rfl rfl id

/-- Histories from power-on with the given NVS contents. -/
abbrev History (nvs : Nvs) (trace : List (System × Action)) (system : System) : Prop :=
  Transition.Run step (System.powerOn nvs) trace system

theorem exists_history (nvs : Nvs) (actions : List Action) (property : System → Bool)
    (executed : (Transition.exec step (System.powerOn nvs) actions).any property = true) :
    ∃ final, History nvs (Transition.execTrace step (System.powerOn nvs) actions) final ∧
      property final = true :=
  Transition.exists_run_of_exec actions property executed

theorem bootQuiet_of_history {nvs : Nvs} {trace : List (System × Action)} {system : System}
    (run : History nvs trace system) : BootQuiet system :=
  run.invariant_state BootQuiet (bootQuiet_powerOn nvs)
    (fun _ _ _ quiet taken => bootQuiet_step quiet taken)

def homeNvs : Nvs where
  ssid := some (CString.ofBuffer (ascii "home"))
  pass := some (CString.ofBuffer (ascii "correct horse"))
  bssidSet := some 0
  bssid := none
  authmode := some wifiAuthWpa2Psk

def noScan : ScanDriver := ⟨0, true, .ok, [], Nat.zero_le _⟩

def bootStored : List Action :=
  [.init .ready, .boot .ok noScan, .staStart, .gotIp .success, .main .ok .success,
    .main .ok .success]

def serveSave (ssid pass : CString) (isOpen : Bool) : List Action :=
  .postSave ssid pass isOpen :: List.replicate 7 (.httpd .ok)

def mainReconnects : List Action := List.replicate 8 (.main .ok .success)

def serveRoot : List Action := .getRoot :: List.replicate 4 (.httpd .ok)

end HydroGovernor
