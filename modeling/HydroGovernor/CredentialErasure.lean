import HydroGovernor.CredentialSaving

/-! Which steps destroy the stored credentials, and whose credentials had failed by then. -/

namespace HydroGovernor

open Firmware

def Nvs.holds (nvs : Nvs) (ssid pass : CString) : Prop :=
  nvs.ssid = some ssid ∧ nvs.pass = some pass

instance (nvs : Nvs) (ssid pass : CString) : Decidable (nvs.holds ssid pass) :=
  inferInstanceAs (Decidable (_ ∧ _))

theorem nvsRead_holds {opens : EspErr} {nvs : Nvs} {creds : Credentials}
    (read : nvsRead opens nvs = some creds) : nvs.holds creds.ssid creds.pass := by
  unfold nvsRead at read
  split at read
  · cases read
  · split at read
    · rename_i ssid pass storedSsid storedPass
      split at read
      · cases read
        exact ⟨storedSsid, storedPass⟩
      · cases read
    · cases read

/-- What a step does to the credential store. -/
inductive NvsStep (system : System) : Action → System → Prop where
  | same {action : Action} {next : System} (nvs : next.device.nvs = system.device.nvs) :
      NvsStep system action next
  | initialised {flash : FlashOutcome} {next : System}
      (nvs : next.device.nvs = (nvsInit flash system.device.nvs).2) :
      NvsStep system (.init flash) next
  | rejected {reason : Reason} {outcome : NvsOutcome} {next : System}
      (connecting : system.device.state = .connecting) (used : 1 ≤ system.device.retryCount)
      (auth : authClass reason = true)
      (nvs : next.device.nvs = nvsClear outcome system.device.nvs) :
      NvsStep system (.disconnected reason outcome) next
  | saved {outcome : NvsOutcome} {next : System} (named : system.device.pendingSsid.bytes ≠ [])
      (nvs : next.device.nvs = (nvsWrite outcome system.device.nvs system.device.pendingSsid
        system.device.pendingPass system.device.pendingBssidSet system.device.pendingBssid
        system.device.pendingAuth).2) :
      NvsStep system (.gotIp outcome) next
  | bootFailed {ret : EspErr} {outcome : NvsOutcome} {next : System}
      (pc : system.main = .bootEnded false) (after : next.main = .restarting)
      (nvs : next.device.nvs = nvsClear outcome system.device.nvs) :
      NvsStep system (.main ret outcome) next

theorem disconnected_nvs (system : System) (reason : Reason) (outcome : NvsOutcome) :
    NvsStep system (.disconnected reason outcome)
      { system with device := system.device.onDisconnected reason outcome } := by
  by_cases connected : system.device.state = .connected
  · exact .same (by rw [Device.onDisconnected_connected connected])
  by_cases connecting : system.device.state = .connecting
  · by_cases unused : system.device.retryCount < 1
    · exact .same (by rw [Device.onDisconnected_retry connecting unused])
    · by_cases auth : authClass reason = true
      · refine .rejected connecting (by omega) auth ?_
        simp [Device.onDisconnected_final connecting unused, auth]
      · exact .same (by simp [Device.onDisconnected_final connecting unused, auth])
  · exact .same (by rw [Device.onDisconnected_other connected connecting])

theorem step_nvs {system next : System} {action : Action}
    (taken : step system action = some next) : NvsStep system action next := by
  cases action with
  | httpd ret =>
      rcases httpdStep_cases taken with writes | quiet
      · cases writes <;> exact .same rfl
      · exact .same quiet.core.nvs
  | main ret outcome =>
      rcases mainStep_cases taken with writes | quiet
      · cases writes with
        | bootFailed pc => exact .bootFailed pc rfl rfl
        | bootEnded | bootConnected | restarted | entered | launchFailed => exact .same rfl
      · exact .same quiet.core.nvs
  | disconnected reason outcome =>
      obtain ⟨-, rfl⟩ := disconnected_cases taken
      exact disconnected_nvs system reason outcome
  | gotIp outcome =>
      obtain ⟨-, rfl⟩ := gotIp_cases taken
      by_cases nothing : system.device.pendingSsid.bytes = []
      · exact .same (by simp [Device.onGotIp, Device.savePending_nothing nothing])
      · exact .saved nothing (by simp [Device.onGotIp, Device.savePending_named nothing])
  | delayed index =>
      obtain ⟨_, _, _, nvs, _⟩ := delayedStep_frame taken
      exact .same nvs
  | init flash =>
      obtain ⟨_, rfl⟩ := init_cases taken
      rcases initStep_cases system flash with ⟨_, ready⟩ | ⟨_, aborted⟩
      · exact .initialised (by rw [ready])
      · exact .initialised (by rw [aborted]; rfl)
  | _ =>
      simp only [step] at taken
      repeat' (split at taken)
      all_goals
        cases taken
        try exact .same rfl

/-- A readable record that a step leaves readable without a save is the old one. -/
def Nvs.stays (before after : Nvs) : Prop :=
  after.readable = true → after = before

theorem nvsClear_stays (outcome : NvsOutcome) (nvs : Nvs) : nvs.stays (nvsClear outcome nvs) := by
  intro readable
  cases clears : outcome.clears with
  | true => simp [nvsClear_of_clears clears] at readable
  | false => exact nvsClear_of_fails clears nvs

theorem nvsInit_stays (flash : FlashOutcome) (nvs : Nvs) :
    nvs.stays (nvsInit flash nvs).2 := by
  intro readable
  unfold nvsInit at readable ⊢
  split
  · rename_i stale
    rw [if_pos stale] at readable
    cases erases : flash.erases with
    | true => simp [erases] at readable
    | false => rfl
  · rfl

theorem NvsStep.stays {system next : System} {action : Action}
    (changed : NvsStep system action next)
    (unsaved : ∀ outcome, action = .gotIp outcome → system.device.pendingSsid.bytes = []) :
    system.device.nvs.stays next.device.nvs := by
  cases changed with
  | same nvs => exact fun _ => nvs
  | initialised nvs => rw [nvs]; exact nvsInit_stays _ _
  | rejected connecting used auth nvs => rw [nvs]; exact nvsClear_stays _ _
  | saved named nvs => exact absurd (unsaved _ rfl) named
  | bootFailed pc after nvs => rw [nvs]; exact nvsClear_stays _ _

/-- As long as there is a readable record, it is the one with this name and password. -/
def Nvs.keeps (nvs : Nvs) (ssid pass : CString) : Prop :=
  nvs.readable = true → nvs.holds ssid pass

theorem Nvs.keeps.of_stays {before after : Nvs} {ssid pass : CString}
    (keeps : before.keeps ssid pass) (stays : before.stays after) : after.keeps ssid pass := by
  intro readable
  have same := stays readable
  rw [same] at readable ⊢
  exact keeps readable

def MainPc.joining : MainPc → Bool
  | .bootWait _ => true
  | .bootEnded _ => true
  | _ => false

/-- Until wifi_manager_start looks at the bits, the attempt it made is with the record it had
read. -/
def bootAttemptStored (log : CallLog) (system : System) : Prop :=
  system.main.joining = true →
    ∃ attempt, log.handed = some attempt ∧ attempt.origin = .start ∧
      system.device.nvs.keeps attempt.ssid attempt.pass

theorem not_started_of_joining {system : System} (joining : system.main.joining = true) :
    system.started = false := by
  cases pc : system.main with
  | bootWait | bootEnded => rw [System.started, pc, MainPc.started]
  | _ => rw [pc] at joining; cases joining

theorem bootAttemptStored_step {log : CallLog} {system next : System} {action : Action}
    (stored : bootAttemptStored log system) (boot : BootQuiet system)
    (taken : step system action = some next) :
    bootAttemptStored (observe log (system, action)) next := by
  intro joining
  have waiting (main : next.main = system.main) : system.started = false :=
    not_started_of_joining (by rw [← main, joining])
  -- during the wait no credentials are pending, so no step saves
  have unmoved (main : next.main = system.main)
      (handed : (observe log (system, action)).handed = log.handed) :
      ∃ attempt, (observe log (system, action)).handed = some attempt ∧
        attempt.origin = .start ∧ next.device.nvs.keeps attempt.ssid attempt.pass := by
    obtain ⟨attempt, is, origin, keeps⟩ := stored (by rw [← main, joining])
    have stays := (step_nvs taken).stays (fun _ _ => boot.pending (waiting main))
    exact ⟨attempt, handed.trans is, origin, keeps.of_stays stays⟩
  cases action with
  | httpd ret =>
      have started := boot.started_of_busy (fun idle => by simp [step, httpdStep, idle] at taken)
      rcases httpdStep_main taken with same | rfl
      · exact absurd (waiting same) (by simp [started])
      · cases joining
  | main ret outcome =>
      rcases mainStep_cases taken with writes | quiet
      · cases writes with
        | bootEnded pc ended =>
            obtain ⟨attempt, is, origin, keeps⟩ := stored (by rw [pc, MainPc.joining])
            exact ⟨attempt, by simpa only [observe, observeMain, pc] using is, origin, keeps⟩
        | _ => cases joining
      · have started := quiet.startedAfter
        rw [not_started_of_joining joining] at started
        cases started
  | init flash =>
      obtain ⟨_, rfl⟩ := init_cases taken
      rcases initStep_cases system flash with ⟨_, ready⟩ | ⟨_, aborted⟩
      · rw [ready] at joining
        cases joining
      · rw [aborted] at joining
        cases joining
  | boot opens driver =>
      rcases (boot_cases taken).2 with ⟨-, rfl⟩ | ⟨creds, read, rfl⟩
      · cases joining
      · exact ⟨⟨.start, log.stagings, creds.ssid, creds.pass⟩, by simp only [observe, read],
          rfl, fun _ => nvsRead_holds read⟩
  | restart =>
      cases taken
      cases joining
  | delayed index => exact unmoved (delayedStep_frame taken).1 rfl
  | _ =>
      have main : next.main = system.main := by
        simp only [step] at taken
        repeat' (split at taken)
        all_goals
          cases taken
          try rfl
      exact unmoved main rfl

/-- The step of the trace that ended the wait of wifi_manager_start, with BIT_STA_CONNECTED as it
was then; app_main has not run since. -/
def WaitEnded (trace : List (System × Action)) (connected : Bool) : Prop :=
  ∃ front waiting since ret outcome back,
    trace = front ++ (waiting, .main ret outcome) :: back ∧ waiting.main = .bootWait since ∧
      waiting.bootWaitEnds since ∧ waiting.device.bitStaConnected = connected ∧
      ∀ taken ∈ back, taken.1.main = .bootEnded connected

theorem step_bootEnded {system next : System} {action : Action} {connected : Bool}
    (taken : step system action = some next) (after : next.main = .bootEnded connected) :
    system.main = .bootEnded connected ∨ ∃ since ret outcome, action = .main ret outcome ∧
      system.main = .bootWait since ∧ system.bootWaitEnds since ∧
      system.device.bitStaConnected = connected := by
  have same (main : next.main = system.main) : system.main = .bootEnded connected :=
    main.symm.trans after
  cases action with
  | httpd ret =>
      rcases httpdStep_main taken with main | rfl
      · exact .inl (same main)
      · cases after
  | main ret outcome =>
      rcases mainStep_cases taken with writes | quiet
      · cases writes with
        | bootEnded pc ended =>
            cases after
            exact .inr ⟨_, ret, outcome, rfl, pc, ended, rfl⟩
        | _ => cases after
      · have started := quiet.startedAfter
        rw [System.started, after] at started
        cases started
  | init flash =>
      obtain ⟨_, rfl⟩ := init_cases taken
      rcases initStep_cases system flash with ⟨_, ready⟩ | ⟨_, aborted⟩
      · rw [ready] at after
        cases after
      · rw [aborted] at after
        cases after
  | boot opens driver =>
      rcases (boot_cases taken).2 with ⟨-, rfl⟩ | ⟨creds, read, rfl⟩
      · cases after
      · cases after
  | restart =>
      cases taken
      cases after
  | delayed index => exact .inl (same (delayedStep_frame taken).1)
  | _ =>
      refine .inl (same ?_)
      simp only [step] at taken
      repeat' (split at taken)
      all_goals
        cases taken
        try rfl

theorem waitEnded_of_history {nvs : Nvs} {trace : List (System × Action)} {final : System}
    (run : History nvs trace final) {connected : Bool} (ended : final.main = .bootEnded connected) :
    WaitEnded trace connected := by
  refine run.invariant (fun trace system =>
    ∀ connected, system.main = .bootEnded connected → WaitEnded trace connected)
    (fun _ _ => True) (fun _ is => by cases is) ?_ (fun _ _ => trivial) connected ended
  intro trace state action next _ before _ taken connected after
  rcases step_bootEnded taken after with main | ⟨since, ret, outcome, rfl, pc, ends, bit⟩
  · obtain ⟨front, waiting, since, ret, outcome, back, split, pc, ends, bit, asleep⟩ :=
      before connected main
    refine ⟨front, waiting, since, ret, outcome, back ++ [(state, action)], ?_, pc, ends, bit, ?_⟩
    · rw [split, List.append_assoc, List.cons_append]
    · intro taken member
      rcases List.mem_append.mp member with earlier | last
      · exact asleep taken earlier
      · rw [List.mem_singleton.mp last]
        exact main
  · exact ⟨trace, state, since, ret, outcome, [], rfl, pc, ends, bit, by simp⟩

/-- wifi_manager_reconnect has read the record and not yet handed it to the driver. -/
def MainPc.carriesRecord : MainPc → Bool
  | .reconnectTarget _ _ => true
  | .reconnectEnter _ _ => true
  | .reconnectConfigure _ _ => true
  | _ => false

/-- No save comes between the read of wifi_manager_reconnect and its esp_wifi_set_config. -/
def carriedRecordKept (system : System) : Action → Prop
  | .gotIp _ => system.device.pendingSsid.bytes ≠ [] → system.main.carriesRecord = false
  | _ => True

instance (system : System) : (action : Action) → Decidable (carriedRecordKept system action)
  | .gotIp _ => inferInstanceAs (Decidable (_ → _ = false))
  | .tick _ | .staStart | .staConnected | .disconnected .. | .scanDone | .scanPublish _ | .getRoot
  | .postApShutdown | .postSave .. | .getScan | .httpd _ | .init _ | .boot .. | .main ..
  | .delayed _ | .restart => isTrue trivial

/-- No save comes between what a call read or staged and its esp_wifi_set_config, and
wifi_manager_reconnect hands over only with nothing pending. -/
def recordSteady (system : System) (action : Action) : Prop :=
  savesUnmixed system action ∧ carriedRecordKept system action

instance (system : System) (action : Action) : Decidable (recordSteady system action) :=
  inferInstanceAs (Decidable (_ ∧ _))

/-- A stored attempt was made with the record that is still there, unless that is gone. -/
structure RecordTracked (log : CallLog) (system : System) : Prop where
  handed : ∀ attempt, log.handed = some attempt → attempt.origin ≠ .connect →
    system.device.nvs.keeps attempt.ssid attempt.pass
  target : ∀ now creds, system.main = .reconnectTarget now creds →
    system.device.nvs.keeps creds.ssid creds.pass
  loaded : ∀ now config,
    system.main = .reconnectEnter now config ∨ system.main = .reconnectConfigure now config →
      ∃ creds, log.loaded = some creds ∧ system.device.nvs.keeps creds.ssid creds.pass

theorem RecordTracked.of_elsewhere {log : CallLog} {system : System}
    (elsewhere : system.main.carriesRecord = false)
    (handed : ∀ attempt, log.handed = some attempt → attempt.origin ≠ .connect →
      system.device.nvs.keeps attempt.ssid attempt.pass) : RecordTracked log system where
  handed := handed
  target now creds pc := by simp [pc, MainPc.carriesRecord] at elsewhere
  loaded now config pc := by
    rcases pc with pc | pc <;> simp [pc, MainPc.carriesRecord] at elsewhere

theorem recordTracked_powerOn {log : CallLog} (blank : log.handed = none) (nvs : Nvs) :
    RecordTracked log (System.powerOn nvs) :=
  .of_elsewhere rfl (fun attempt is => by simp [blank] at is)

theorem RecordTracked.congr {log later : CallLog} {system next : System}
    (tracked : RecordTracked log system) (nvs : system.device.nvs.stays next.device.nvs)
    (main : next.main = system.main) (handed : later.handed = log.handed)
    (loaded : later.loaded = log.loaded) : RecordTracked later next where
  handed attempt is stored := (tracked.handed attempt (handed.symm.trans is) stored).of_stays nvs
  target now creds pc := (tracked.target now creds (main.symm.trans pc)).of_stays nvs
  loaded now config pc := by
    rw [main] at pc
    obtain ⟨creds, is, keeps⟩ := tracked.loaded now config pc
    exact ⟨creds, loaded.trans is, keeps.of_stays nvs⟩

theorem RecordTracked.leave {log later : CallLog} {system next : System}
    (tracked : RecordTracked log system) (nvs : system.device.nvs.stays next.device.nvs)
    (elsewhere : next.main.carriesRecord = false) (handed : later.handed = log.handed) :
    RecordTracked later next :=
  .of_elsewhere elsewhere (fun attempt is stored =>
    (tracked.handed attempt (handed.symm.trans is) stored).of_stays nvs)

theorem recordTracked_mainStep {log : CallLog} {system next : System} {ret : EspErr}
    {outcome : NvsOutcome} (tracked : RecordTracked log system)
    (taken : mainStep system ret outcome = some next) :
    RecordTracked (observeMain log system) next := by
  have changed : NvsStep system (.main ret outcome) next := step_nvs taken
  have stays : system.device.nvs.stays next.device.nvs := changed.stays (by simp)
  unfold mainStep at taken
  unfold observeMain
  cases pc : system.main with
  | reconnectRead now =>
      simp only [pc] at taken ⊢
      split at taken
      · rename_i creds read
        cases taken
        refine ⟨tracked.handed, fun _ _ is => ?_, fun _ _ is => by simp at is⟩
        cases is
        exact fun _ => nvsRead_holds read
      · cases taken
        exact tracked.leave stays rfl rfl
  | reconnectTarget now creds =>
      simp only [pc, Option.some.injEq] at taken ⊢
      subst taken
      exact ⟨tracked.handed, nofun, fun _ _ _ => ⟨creds, rfl, tracked.target now creds pc⟩⟩
  | reconnectEnter now config =>
      simp only [pc, Option.some.injEq] at taken ⊢
      subst taken
      exact ⟨tracked.handed, nofun, fun _ _ _ => tracked.loaded now config (Or.inl pc)⟩
  | reconnectConfigure now config =>
      simp only [pc] at taken ⊢
      obtain ⟨creds, loaded, keeps⟩ := tracked.loaded now config (Or.inr pc)
      have elsewhere : next.main.carriesRecord = false := by
        split at taken <;> cases taken <;> rfl
      apply RecordTracked.of_elsewhere elsewhere
      intro attempt is _
      rw [loaded] at is
      cases is
      exact keeps.of_stays stays
  | restarting =>
      simp only [pc, Option.some.injEq] at taken ⊢
      subst taken
      exact recordTracked_powerOn rfl _
  | bootWait since =>
      simp only [pc] at taken ⊢
      split at taken <;> cases taken
      exact tracked.leave stays rfl rfl
  | _ =>
      simp only [pc] at taken ⊢
      (try split at taken) <;> cases taken <;> exact tracked.leave stays rfl rfl

theorem recordTracked_httpdStep {log : CallLog} {system next : System} {ret : EspErr}
    (tracked : RecordTracked log system) (taken : httpdStep system ret = some next) :
    RecordTracked (observeHttpd log system ret) next := by
  have changed : NvsStep system (.httpd ret) next := step_nvs taken
  have stays : system.device.nvs.stays next.device.nvs := changed.stays (by simp)
  unfold httpdStep at taken
  unfold observeHttpd
  cases pc : system.httpd with
  | connectConfigure config =>
      simp only [pc] at taken ⊢
      split at taken <;> rename_i ok <;> cases taken
      · have kept : RecordTracked log { system with
            device := system.device.setStaConfig config, httpd := .connectLaunch } :=
          tracked.congr stays rfl rfl rfl
        rw [if_pos ok]
        refine ⟨fun attempt is stored => ?_, kept.target, kept.loaded⟩
        obtain ⟨staging, _, rfl⟩ := Option.map_eq_some_iff.mp is
        exact absurd rfl stored
      · rw [if_neg ok]
        exact recordTracked_powerOn rfl _
  | _ =>
      simp only [pc] at taken ⊢
      (try split at taken) <;> cases taken <;> exact tracked.congr stays rfl rfl rfl

theorem recordTracked_step {log : CallLog} {system next : System} {action : Action}
    (tracked : RecordTracked log system) (pending : PendingTracked log system)
    (steady : recordSteady system action) (taken : step system action = some next) :
    RecordTracked (observe log (system, action)) next := by
  have stays (unsaved : ∀ outcome, action = .gotIp outcome →
      system.device.pendingSsid.bytes = []) : system.device.nvs.stays next.device.nvs :=
    (step_nvs taken).stays unsaved
  cases action with
  | httpd ret => exact recordTracked_httpdStep tracked taken
  | main ret outcome => exact recordTracked_mainStep tracked taken
  | gotIp outcome =>
      have main : next.main = system.main := by
        simp only [step] at taken
        split at taken <;> cases taken
        rfl
      by_cases nothing : system.device.pendingSsid.bytes = []
      · exact tracked.congr (stays (fun _ _ => nothing)) main rfl rfl
      · have closed : system.httpd.window = none := steady.1 nothing
        have elsewhere : system.main.carriesRecord = false := steady.2 nothing
        obtain ⟨staging, _, _, way⟩ := pending.pending nothing
        have given : HandedIs staging log system.device :=
          way.resolve_left (by simp [closed])
        apply RecordTracked.of_elsewhere (by rw [main, elsewhere])
        intro attempt is stored
        cases given.handed.symm.trans is
        exact absurd rfl stored
  | init flash =>
      have kept := stays (by simp)
      obtain ⟨_, rfl⟩ := init_cases taken
      simp only [observe]
      rcases initStep_cases system flash with ⟨ok, ready⟩ | ⟨failed, aborted⟩
      · rw [if_pos ok]
        exact tracked.leave kept (by rw [ready]; rfl) rfl
      · rw [if_neg failed, aborted]
        exact recordTracked_powerOn rfl _
  | boot opens driver =>
      have kept := stays (by simp)
      simp only [observe]
      rcases (boot_cases taken).2 with ⟨read, rfl⟩ | ⟨creds, read, rfl⟩
      · rw [read]
        exact tracked.leave kept rfl rfl
      · rw [read]
        apply RecordTracked.of_elsewhere rfl
        intro attempt is _
        cases is
        exact fun _ => nvsRead_holds read
  | restart =>
      cases taken
      exact recordTracked_powerOn rfl _
  | delayed index => exact tracked.congr (stays (by simp)) (delayedStep_frame taken).1 rfl rfl
  | _ =>
      have main : next.main = system.main := by
        simp only [step] at taken
        repeat' (split at taken)
        all_goals
          cases taken
          try rfl
      exact tracked.congr (stays (by simp)) main rfl rfl

/-- A disconnect that ends an attempt with an auth-class reason. -/
def rejects (system : System) (action : Action) : Prop :=
  ∃ reason outcome, action = .disconnected reason outcome ∧
    system.device.state = .connecting ∧ 1 ≤ system.device.retryCount ∧ authClass reason = true

/-- wifi_manager_start gives up: its attempt with the stored credentials had not been connected
when the wait ended, whatever came after that, and the device restarts. -/
def bootGivesUp (trace : List (System × Action)) (system : System) (action : Action)
    (next : System) : Prop :=
  (∃ ret outcome, action = .main ret outcome) ∧ system.main = .bootEnded false ∧
    WaitEnded trace false ∧ next.main = .restarting ∧
    ∃ attempt, (callLog trace).handed = some attempt ∧ attempt.origin = .start ∧
      system.device.nvs.holds attempt.ssid attempt.pass

def flashRefused (action : Action) : Prop :=
  ∃ flash, action = .init flash ∧
    (flash.first = .nvsNoFreePages ∨ flash.first = .nvsNewVersionFound)

def erasesRecord (system next : System) : Prop :=
  system.device.nvs.readable = true ∧ next.device.nvs.readable = false

theorem NvsStep.erases {system next : System} {action : Action}
    (changed : NvsStep system action next) (fits : PendingFits system.device)
    (erased : erasesRecord system next) :
    rejects system action ∨ flashRefused action ∨
      ((∃ ret outcome, action = .main ret outcome) ∧ system.main = .bootEnded false ∧
        next.main = .restarting) := by
  obtain ⟨readable, gone⟩ := erased
  cases changed with
  | same nvs => simp [nvs, readable] at gone
  | initialised nvs =>
      rename_i flash
      refine Or.inr (Or.inl ⟨flash, rfl, ?_⟩)
      by_contra sound
      simp [nvs, nvsInit, sound, readable] at gone
  | rejected connecting used auth nvs => exact Or.inl ⟨_, _, rfl, connecting, used, auth⟩
  | saved named nvs =>
      rw [nvs, nvsWrite_readable readable named fits.ssid fits.pass] at gone
      cases gone
  | bootFailed pc after nvs => exact Or.inr (Or.inr ⟨⟨_, _, rfl⟩, pc, after⟩)

theorem bootAttemptStored_before {nvs : Nvs} {trace : List (System × Action)} {final : System}
    (run : History nvs trace final) {front back : List (System × Action)} {system : System}
    {action : Action} (split : trace = front ++ (system, action) :: back) :
    bootAttemptStored (callLog front) system := by
  refine run.invariant_before (fun trace system => bootAttemptStored (callLog trace) system)
    (fun _ _ => True) ?_ ?_ (fun _ _ => trivial) split
  · intro joining
    cases joining
  · intro trace state action next earlier stored _ taken
    rw [callLog_snoc]
    exact bootAttemptStored_step stored (bootQuiet_of_history earlier) taken

theorem recordTracked_of_history {nvs : Nvs} {trace : List (System × Action)} {final : System}
    (run : History nvs trace final) (steady : ∀ taken ∈ trace, recordSteady taken.1 taken.2) :
    RecordTracked (callLog trace) final := by
  refine (run.invariant (fun trace system => RecordTracked (callLog trace) system ∧
    PendingTracked (callLog trace) system) recordSteady
    ⟨recordTracked_powerOn rfl nvs, pendingTracked_powerOn _ nvs⟩ ?_ steady).1
  rintro trace state action next earlier ⟨record, pending⟩ steady taken
  rw [callLog_snoc]
  exact ⟨recordTracked_step record pending steady taken,
    tracked_step pending (bootQuiet_of_history earlier) (savesUnmixed_clean steady.1) taken⟩

theorem disconnected_spares {system next : System} {reason : Reason} {outcome : NvsOutcome}
    (taken : step system (.disconnected reason outcome) = some next)
    (spared : ¬ rejects system (.disconnected reason outcome)) :
    next.device.nvs = system.device.nvs := by
  have changed := step_nvs taken
  cases changed with
  | same nvs => exact nvs
  | rejected connecting used auth nvs =>
      exact absurd ⟨reason, outcome, rfl, connecting, used, auth⟩ spared

def bootWithoutAp : List Action :=
  [.init .ready, .boot .ok noScan, .staStart, .disconnected wifiReasonNoApFound .success,
    .disconnected wifiReasonNoApFound .success, .main .ok .success]

/-- A rejection of the very credentials that are stored. -/
def provenRejection (log : CallLog) (system : System) (action : Action) : Prop :=
  rejects system action ∧ ∃ attempt, log.handed = some attempt ∧
    system.device.nvs.holds attempt.ssid attempt.pass

def bootRejected : List Action :=
  [.init .ready, .boot .ok noScan, .staStart, .disconnected wifiReasonAuthFail .success]

end HydroGovernor
