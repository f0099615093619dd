import HydroGovernor.Tasks

/-! What a history says about its connection attempts: which call staged the pending
credentials last, and which call handed its configuration to the driver last. -/

namespace HydroGovernor

open Firmware

/-- The entry point that handed a configuration to esp_wifi_set_config. -/
inductive Origin where
  | start
  | connect
  | reconnect
  deriving DecidableEq, Repr

/-- A call that handed over its configuration, with the credentials it was made for. Calls of
connect_sta carry their place in the order of stagings. -/
structure Attempt where
  origin : Origin
  number : Nat
  ssid : CString
  pass : CString
  deriving DecidableEq, Repr

/-- One staging of pending credentials by connect_sta: its arguments, the record its pointer
led to, and the metadata that was in the statics before. -/
structure Staging where
  ssid : CString
  pass : CString
  isOpen : Bool
  found : Option ApRecord
  oldBssidSet : Bool
  oldBssid : Bssid
  oldAuth : AuthMode
  deriving DecidableEq, Repr

namespace Staging

def config (staging : Staging) : WifiStaConfig :=
  Device.attemptConfig staging.ssid staging.pass staging.isOpen staging.found

def auth (staging : Staging) : AuthMode :=
  match staging.found with
  | some ap => ap.authmode
  | none => staging.oldAuth

def bssidSet (staging : Staging) : Bool :=
  if staging.found.isSome then true else staging.oldBssidSet

def bssid (staging : Staging) : Bssid :=
  match staging.found with
  | some ap => ap.bssid
  | none => staging.oldBssid

end Staging

structure CallLog where
  stagings : Nat
  staging : Option Staging
  loaded : Option Credentials
  handed : Option Attempt
  deriving DecidableEq, Repr

def CallLog.blank : CallLog := ⟨0, none, none, none⟩

def CallLog.restarted (log : CallLog) : CallLog :=
  { log with staging := none, loaded := none, handed := none }

def observeHttpd (log : CallLog) (system : System) (ret : EspErr) : CallLog :=
  match system.httpd with
  | .connectStage ssid pass isOpen pointer =>
      { log with
        stagings := log.stagings + 1
        staging := some
          { ssid := ssid
            pass := pass
            isOpen := isOpen
            found := system.device.scan.deref pointer
            oldBssidSet := system.device.pendingBssidSet
            oldBssid := system.device.pendingBssid
            oldAuth := system.device.pendingAuth } }
  | .connectConfigure _ =>
      if ret = .ok then
        { log with handed := log.staging.map (fun staging =>
            ⟨.connect, log.stagings, staging.ssid, staging.pass⟩) }
      else log.restarted
  | _ => log

def observeMain (log : CallLog) (system : System) : CallLog :=
  match system.main with
  | .reconnectTarget _ creds => { log with loaded := some creds }
  | .reconnectConfigure _ _ =>
      { log with handed := log.loaded.map (fun creds =>
          ⟨.reconnect, log.stagings, creds.ssid, creds.pass⟩) }
  | .restarting => log.restarted
  | _ => log

def observe (log : CallLog) (taken : System × Action) : CallLog :=
  match taken.2 with
  | .httpd ret => observeHttpd log taken.1 ret
  | .main _ _ => observeMain log taken.1
  | .init flash =>
      if (nvsInit flash taken.1.device.nvs).1 = .ok then log else log.restarted
  | .boot opens _ =>
      match nvsRead opens taken.1.device.nvs with
      | some creds => { log with handed := some ⟨.start, log.stagings, creds.ssid, creds.pass⟩ }
      | none => log
  | .restart => log.restarted
  | _ => log

def callLog (trace : List (System × Action)) : CallLog := trace.foldl observe CallLog.blank

@[simp] theorem callLog_snoc (trace : List (System × Action)) (taken : System × Action) :
    callLog (trace ++ [taken]) = observe (callLog trace) taken := by
  simp [callLog]

/-- The configuration that was staged and not yet handed to the driver. -/
def HttpdPc.window : HttpdPc → Option WifiStaConfig
  | .connectAlign config _ => some config
  | .connectEnter config => some config
  | .connectConfigure config => some config
  | _ => none

/-- The statics that an attempt is staged in. -/
structure SameStatics (before after : Device) : Prop where
  ssid : after.pendingSsid = before.pendingSsid
  pass : after.pendingPass = before.pendingPass
  bssidSet : after.pendingBssidSet = before.pendingBssidSet
  bssid : after.pendingBssid = before.pendingBssid
  auth : after.pendingAuth = before.pendingAuth

theorem SameStatics.refl (device : Device) : SameStatics device device :=
  ⟨rfl, rfl, rfl, rfl, rfl⟩

/-- The call in progress, the calls on record and what they handed over are the same. -/
structure SameCalls (system next : System) (action : Action) : Prop where
  window : next.httpd.window = system.httpd.window
  config : next.device.staConfig = system.device.staConfig
  stagings : ∀ log : CallLog, (observe log (system, action)).stagings = log.stagings
  staging : ∀ log : CallLog, (observe log (system, action)).staging = log.staging
  handed : ∀ log : CallLog, (observe log (system, action)).handed = log.handed

def handsStored (system : System) (action : Action) : Prop :=
  system.started = false ∨ ∃ ret outcome now config,
    action = .main ret outcome ∧ system.main = .reconnectConfigure now config

/-- What a step does to the pending credentials, the driver's configuration and the log. -/
inductive PendingStep (system : System) : Action → System → Prop where
  | same {action : Action} {next : System} (statics : SameStatics system.device next.device)
      (calls : SameCalls system next action) : PendingStep system action next
  | staged {ssid pass : CString} {isOpen : Bool} {pointer : Option Nat} {ret : EspErr}
      (pc : system.httpd = .connectStage ssid pass isOpen pointer) :
      PendingStep system (.httpd ret) { system with
        device := system.device.stageAttempt ssid pass (system.device.scan.deref pointer)
        httpd := .connectAlign
          (Device.attemptConfig ssid pass isOpen (system.device.scan.deref pointer)) pointer }
  | handed {config : WifiStaConfig} (pc : system.httpd = .connectConfigure config) :
      PendingStep system (.httpd .ok) { system with
        device := system.device.setStaConfig config, httpd := .connectLaunch }
  | handedStored {action : Action} {next : System}
      (statics : SameStatics system.device next.device)
      (window : next.httpd.window = system.httpd.window)
      (staging : ∀ log : CallLog, (observe log (system, action)).staging = log.staging)
      (source : handsStored system action) : PendingStep system action next
  | cleared {action : Action} {next : System}
      (statics : SameStatics system.device.clearPendingCredentials next.device)
      (calls : SameCalls system next action) : PendingStep system action next
  | restarted {action : Action} {nvs : Nvs}
      (staging : ∀ log : CallLog, (observe log (system, action)).staging = none) :
      PendingStep system action (System.powerOn nvs)

theorem SameStatics.alignChannel (device : Device) (pointer : Option Nat) :
    SameStatics device (device.alignChannel pointer) := by
  obtain ⟨channel, aligned⟩ := device.alignChannel_frame pointer
  rw [aligned]
  exact ⟨rfl, rfl, rfl, rfl, rfl⟩

theorem httpdStep_pending {system next : System} {ret : EspErr}
    (taken : httpdStep system ret = some next) : PendingStep system (.httpd ret) next := by
  unfold httpdStep at taken
  cases pc : system.httpd with
  | connectStage ssid pass isOpen pointer =>
      simp only [pc, Option.some.injEq] at taken
      subst taken
      exact .staged pc
  | connectAlign config pointer =>
      simp only [pc, Option.some.injEq] at taken
      subst taken
      obtain ⟨channel, aligned⟩ := system.device.alignChannel_frame pointer
      refine .same (.alignChannel _ _) ⟨?_, ?_, ?_, ?_, ?_⟩ <;>
        simp [HttpdPc.window, observe, observeHttpd, pc, aligned]
  | connectConfigure config =>
      simp only [pc] at taken
      split at taken <;> cases taken
      · rename_i ok
        rw [ok]
        exact .handed pc
      · rename_i failed
        exact .restarted
          (fun log => by simp [observe, observeHttpd, pc, failed, CallLog.restarted])
  | _ =>
      simp only [pc] at taken
      (try split at taken) <;> cases taken <;>
        (refine .same ⟨rfl, rfl, rfl, rfl, rfl⟩ ⟨?_, rfl, ?_, ?_, ?_⟩ <;>
          simp [HttpdPc.window, observe, observeHttpd, pc])

theorem mainStep_pending {system next : System} {ret : EspErr} {outcome : NvsOutcome}
    (taken : mainStep system ret outcome = some next) :
    PendingStep system (.main ret outcome) next := by
  unfold mainStep at taken
  cases pc : system.main with
  | bootWait since =>
      simp only [pc] at taken
      repeat' (split at taken)
      all_goals
        cases taken
        try
          refine .same ⟨rfl, rfl, rfl, rfl, rfl⟩ ⟨rfl, rfl, ?_, ?_, ?_⟩ <;>
            simp [observe, observeMain, pc]
  | restarting =>
      simp only [pc, Option.some.injEq] at taken
      subst taken
      exact .restarted (fun log => by simp [observe, observeMain, pc, CallLog.restarted])
  | reconnectConfigure now config =>
      simp only [pc] at taken
      split at taken <;> cases taken <;>
        exact .handedStored ⟨rfl, rfl, rfl, rfl, rfl⟩ rfl
          (fun log => by simp [observe, observeMain, pc])
          (Or.inr ⟨ret, outcome, now, config, rfl, pc⟩)
  | _ =>
      simp only [pc] at taken
      (try split at taken) <;> cases taken <;>
        (refine .same ⟨rfl, rfl, rfl, rfl, rfl⟩ ⟨rfl, rfl, ?_, ?_, ?_⟩ <;>
          simp [observe, observeMain, pc])

theorem disconnected_pending {system : System} (reason : Reason) (outcome : NvsOutcome) :
    PendingStep system (.disconnected reason outcome)
      { system with device := system.device.onDisconnected reason outcome } := by
  by_cases connected : system.device.state = .connected
  · rw [Device.onDisconnected_connected connected]
    exact .same ⟨rfl, rfl, rfl, rfl, rfl⟩ ⟨rfl, rfl, fun _ => rfl, fun _ => rfl, fun _ => rfl⟩
  by_cases connecting : system.device.state = .connecting
  · by_cases unused : system.device.retryCount < 1
    · rw [Device.onDisconnected_retry connecting unused]
      exact .same ⟨rfl, rfl, rfl, rfl, rfl⟩ ⟨rfl, rfl, fun _ => rfl, fun _ => rfl, fun _ => rfl⟩
    · rw [Device.onDisconnected_final connecting unused]
      exact .cleared ⟨rfl, rfl, rfl, rfl, rfl⟩
        ⟨rfl, rfl, fun _ => rfl, fun _ => rfl, fun _ => rfl⟩
  · rw [Device.onDisconnected_other connected connecting]
    exact .same (.refl _) ⟨rfl, rfl, fun _ => rfl, fun _ => rfl, fun _ => rfl⟩

theorem gotIp_pending {system : System} (outcome : NvsOutcome) :
    PendingStep system (.gotIp outcome)
      { system with device := system.device.onGotIp outcome } := by
  by_cases nothing : system.device.pendingSsid.bytes = []
  · rw [Device.onGotIp, Device.savePending_nothing nothing]
    exact .same ⟨rfl, rfl, rfl, rfl, rfl⟩ ⟨rfl, rfl, fun _ => rfl, fun _ => rfl, fun _ => rfl⟩
  · rw [Device.onGotIp, Device.savePending_named nothing]
    exact .cleared ⟨rfl, rfl, rfl, rfl, rfl⟩
      ⟨rfl, rfl, fun _ => rfl, fun _ => rfl, fun _ => rfl⟩

theorem step_pending {system next : System} {action : Action}
    (taken : step system action = some next) : PendingStep system action next := by
  cases action with
  | httpd ret => exact httpdStep_pending taken
  | main ret outcome => exact mainStep_pending taken
  | disconnected reason outcome =>
      obtain ⟨-, rfl⟩ := disconnected_cases taken
      exact disconnected_pending reason outcome
  | gotIp outcome =>
      obtain ⟨-, rfl⟩ := gotIp_cases taken
      exact gotIp_pending outcome
  | delayed index =>
      obtain ⟨_, _, _, _, rfl⟩ := delayedStep_writes taken
      exact .same ⟨rfl, rfl, rfl, rfl, rfl⟩ ⟨rfl, rfl, fun _ => rfl, fun _ => rfl, fun _ => rfl⟩
  | init flash =>
      obtain ⟨_, rfl⟩ := init_cases taken
      rcases initStep_cases system flash with ⟨ok, ready⟩ | ⟨failed, aborted⟩
      · rw [ready]
        refine .same ⟨rfl, rfl, rfl, rfl, rfl⟩ ⟨rfl, rfl, ?_, ?_, ?_⟩ <;> simp [observe, ok]
      · rw [aborted]
        exact .restarted (fun log => by simp [observe, failed, CallLog.restarted])
  | boot opens driver =>
      obtain ⟨pc, booted⟩ := boot_cases taken
      have off : system.started = false := by simp [System.started, pc, MainPc.started]
      have kept : ∀ log : CallLog,
          (observe log (system, .boot opens driver)).staging = log.staging := by
        intro log
        simp only [observe]
        split <;> rfl
      rcases booted with ⟨-, rfl⟩ | ⟨creds, -, rfl⟩
      · exact .handedStored ⟨rfl, rfl, rfl, rfl, rfl⟩ rfl kept (Or.inl off)
      · exact .handedStored ⟨rfl, rfl, rfl, rfl, rfl⟩ rfl kept (Or.inl off)
  | restart =>
      cases taken
      exact .restarted (fun _ => rfl)
  | getRoot | postApShutdown | postSave | getScan =>
      simp only [step] at taken
      split at taken
      · rename_i accepts
        obtain ⟨_, idle⟩ := accepts_iff.mp accepts
        (try split at taken) <;> cases taken <;>
          exact .same ⟨rfl, rfl, rfl, rfl, rfl⟩
            ⟨by simp [idle, HttpdPc.window], rfl, fun _ => rfl, fun _ => rfl, fun _ => rfl⟩
      · cases taken
  | tick | staStart | staConnected | scanDone | scanPublish =>
      simp only [step] at taken
      repeat' (split at taken)
      all_goals
        cases taken
        try
          exact .same ⟨rfl, rfl, rfl, rfl, rfl⟩
            ⟨rfl, rfl, fun _ => rfl, fun _ => rfl, fun _ => rfl⟩

/-- The pending statics are those of the staging. -/
structure PendingIs (staging : Staging) (device : Device) : Prop where
  ssid : device.pendingSsid = staging.ssid.take 63
  pass : device.pendingPass = staging.pass.take 63
  bssidSet : device.pendingBssidSet = staging.bssidSet
  bssid : device.pendingBssid = staging.bssid
  auth : device.pendingAuth = staging.auth

/-- The call of the last staging is the one that handed over its configuration last. -/
structure HandedIs (staging : Staging) (log : CallLog) (device : Device) : Prop where
  handed : log.handed = some ⟨.connect, log.stagings, staging.ssid, staging.pass⟩
  config : device.staConfig = staging.config

/-- The pending credentials are the last staging's, and either its call is still on the way to
esp_wifi_set_config or no other call handed over a configuration since. -/
structure PendingTracked (log : CallLog) (system : System) : Prop where
  window : ∀ config, system.httpd.window = some config →
    ∃ staging, log.staging = some staging ∧ config = staging.config
  pending : system.device.pendingSsid.bytes ≠ [] →
    ∃ staging, log.staging = some staging ∧ PendingIs staging system.device ∧
      (system.httpd.window.isSome = true ∨ HandedIs staging log system.device)

theorem pendingTracked_powerOn (log : CallLog) (nvs : Nvs) :
    PendingTracked log (System.powerOn nvs) where
  window _ window := by cases window
  pending named := absurd rfl named

theorem PendingIs.congr {staging : Staging} {before after : Device}
    (is : PendingIs staging before) (same : SameStatics before after) :
    PendingIs staging after where
  ssid := same.ssid.trans is.ssid
  pass := same.pass.trans is.pass
  bssidSet := same.bssidSet.trans is.bssidSet
  bssid := same.bssid.trans is.bssid
  auth := same.auth.trans is.auth

theorem HandedIs.congr {staging : Staging} {log : CallLog} {system next : System}
    {action : Action} (handed : HandedIs staging log system.device)
    (same : SameCalls system next action) :
    HandedIs staging (observe log (system, action)) next.device where
  handed := by rw [same.handed, same.stagings, handed.handed]
  config := same.config.trans handed.config

theorem PendingTracked.dropped {log later : CallLog} {system next : System}
    (tracked : PendingTracked log system) (empty : next.device.pendingSsid.bytes = [])
    (window : next.httpd.window = system.httpd.window) (staging : later.staging = log.staging) :
    PendingTracked later next where
  window config opened := by
    rw [staging]
    exact tracked.window config (by rw [← window, opened])
  pending named := absurd empty named

/-- wifi_manager_reconnect hands over its configuration only with nothing pending. -/
def reconnectsClean (system : System) : Action → Prop
  | .main _ _ =>
      (∃ now config, system.main = .reconnectConfigure now config) →
        system.device.pendingSsid.bytes = []
  | _ => True

theorem tracked_step {log : CallLog} {system next : System} {action : Action}
    (tracked : PendingTracked log system) (boot : BootQuiet system)
    (clean : reconnectsClean system action) (taken : step system action = some next) :
    PendingTracked (observe log (system, action)) next := by
  cases step_pending taken with
  | same statics calls =>
      constructor
      · intro config opened
        rw [calls.staging]
        exact tracked.window config (by rw [← calls.window, opened])
      · intro named
        rw [statics.ssid] at named
        obtain ⟨staging, staged, is, way⟩ := tracked.pending named
        refine ⟨staging, by rw [calls.staging, staged], is.congr statics, ?_⟩
        rw [calls.window]
        exact way.imp id (fun handed => handed.congr calls)
  | staged pc =>
      simp only [observe, observeHttpd, pc]
      constructor
      · intro config opened
        exact ⟨_, rfl, (Option.some.inj opened).symm⟩
      · intro _
        exact ⟨_, rfl, ⟨rfl, rfl, rfl, rfl, rfl⟩, Or.inl rfl⟩
  | @handed config pc =>
      obtain ⟨staging, staged, given⟩ := tracked.window config (by simp [pc, HttpdPc.window])
      constructor
      · intro config opened
        cases opened
      · intro named
        obtain ⟨last, lastStaged, is, _⟩ := tracked.pending named
        cases staged.symm.trans lastStaged
        refine ⟨staging, ?_, ⟨is.ssid, is.pass, is.bssidSet, is.bssid, is.auth⟩, Or.inr ⟨?_, given⟩⟩
        · simp [observe, observeHttpd, pc, staged]
        · simp [observe, observeHttpd, pc, staged]
  | handedStored statics window staging source =>
      have empty : system.device.pendingSsid.bytes = [] := by
        rcases source with off | ⟨_, _, now, config, rfl, pc⟩
        · exact boot.pending off
        · exact clean ⟨now, config, pc⟩
      exact tracked.dropped (by rw [statics.ssid, empty]) window (staging log)
  | cleared statics calls =>
      exact tracked.dropped (by rw [statics.ssid]; rfl) calls.window (calls.staging log)
  | restarted staging => exact pendingTracked_powerOn _ _

theorem tracked_before {nvs : Nvs} {trace : List (System × Action)} {final : System}
    (run : History nvs trace final) (clean : ∀ taken ∈ trace, reconnectsClean taken.1 taken.2)
    {front back : List (System × Action)} {system : System} {action : Action}
    (split : trace = front ++ (system, action) :: back) :
    PendingTracked (callLog front) system := by
  refine run.invariant_before (fun trace system => PendingTracked (callLog trace) system)
    reconnectsClean (pendingTracked_powerOn _ nvs) ?_ clean split
  intro trace state action next earlier tracked clean taken
  rw [callLog_snoc]
  exact tracked_step tracked (bootQuiet_of_history earlier) clean taken

/-- Strings that nvs_read will take back. -/
structure PendingFits (device : Device) : Prop where
  ssid : device.pendingSsid.length < 64
  pass : device.pendingPass.length < 64

theorem empty_fits : CString.empty.length < 64 := by decide

theorem pendingFits_powerOn (nvs : Nvs) : PendingFits (Device.powerOn nvs) :=
  ⟨empty_fits, empty_fits⟩

theorem pendingFits_step {system next : System} {action : Action}
    (fits : PendingFits system.device) (taken : step system action = some next) :
    PendingFits next.device := by
  cases step_pending taken with
  | same statics calls =>
      exact ⟨by rw [statics.ssid]; exact fits.ssid, by rw [statics.pass]; exact fits.pass⟩
  | staged pc =>
      have short (text : CString) : (text.take 63).length < 64 :=
        Nat.lt_succ_of_le (CString.take_length_le 63 text)
      exact ⟨short _, short _⟩
  | handed pc => exact ⟨fits.ssid, fits.pass⟩
  | handedStored statics window staging source =>
      exact ⟨by rw [statics.ssid]; exact fits.ssid, by rw [statics.pass]; exact fits.pass⟩
  | cleared statics calls =>
      exact ⟨by rw [statics.ssid]; exact empty_fits, by rw [statics.pass]; exact empty_fits⟩
  | restarted staging => exact pendingFits_powerOn _

theorem pendingFits_of_history {nvs : Nvs} {trace : List (System × Action)} {system : System}
    (run : History nvs trace system) : PendingFits system.device :=
  run.invariant_state (fun system => PendingFits system.device) (pendingFits_powerOn nvs)
    (fun _ _ _ fits taken => pendingFits_step fits taken)

end HydroGovernor
