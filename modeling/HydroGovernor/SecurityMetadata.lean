import HydroGovernor.CredentialSaving

/-! The auth mode and BSSID that are saved with an attempt's credentials. -/

namespace HydroGovernor

open Firmware

/-- wifi_manager_start and wifi_manager_reconnect would read back the metadata that the
driver holds for the present attempt, and apply its threshold. -/
def metadataKept (nvs : Nvs) (given : WifiStaConfig) : Prop :=
  ∃ creds, nvsRead .ok nvs = some creds ∧
    creds.auth = given.thresholdAuthmode ∧
    creds.bssidSet = given.bssidSet ∧
    creds.bssid = given.bssid ∧
    (Device.storedConfig creds).thresholdAuthmode = given.thresholdAuthmode

/-- The attempt's name was in the scan cache, or the network is open and no attempt since
power-on had its name there. -/
def Staging.ownMetadata (staging : Staging) : Prop :=
  staging.found.isSome = true ∨ (staging.isOpen = true ∧ staging.oldBssidSet = false)

instance (staging : Staging) : Decidable staging.ownMetadata :=
  inferInstanceAs (Decidable (_ ∨ _))

/-- The metadata statics are the zero initial ones until a staging finds its name. -/
structure MetadataFresh (log : CallLog) (device : Device) : Prop where
  statics : device.pendingBssidSet = false → device.pendingAuth = 0
  staged : ∀ staging, log.staging = some staging →
    staging.oldBssidSet = false → staging.oldAuth = 0

theorem metadataFresh_powerOn {log : CallLog} (blank : log.staging = none) (nvs : Nvs) :
    MetadataFresh log (Device.powerOn nvs) :=
  ⟨fun _ => rfl, fun staging is => by simp [blank] at is⟩

theorem metadataFresh_step {log : CallLog} {system next : System} {action : Action}
    (fresh : MetadataFresh log system.device) (taken : step system action = some next) :
    MetadataFresh (observe log (system, action)) next.device := by
  cases step_pending taken with
  | same statics calls =>
      constructor
      · rw [statics.bssidSet, statics.auth]
        exact fresh.statics
      · rw [calls.staging]
        exact fresh.staged
  | staged pc =>
      constructor
      · cases system.device.scan.deref _ with
        | none => exact fresh.statics
        | some ap => simp [Device.stageAttempt]
      · intro staging is
        simp only [observe, observeHttpd, pc, Option.some.injEq] at is
        subst is
        exact fresh.statics
  | handed pc =>
      refine ⟨fresh.statics, ?_⟩
      simp only [observe, observeHttpd, pc, if_true]
      exact fresh.staged
  | handedStored statics window staging source =>
      constructor
      · rw [statics.bssidSet, statics.auth]
        exact fresh.statics
      · rw [staging]
        exact fresh.staged
  | cleared statics calls =>
      constructor
      · rw [statics.bssidSet, statics.auth]
        exact fresh.statics
      · rw [calls.staging]
        exact fresh.staged
  | restarted staging => exact metadataFresh_powerOn (staging log) _

theorem metadataFresh_before {nvs : Nvs} {trace : List (System × Action)} {final : System}
    (run : History nvs trace final) {front back : List (System × Action)} {system : System}
    {action : Action} (split : trace = front ++ (system, action) :: back) :
    MetadataFresh (callLog front) system.device := by
  refine run.invariant_before
    (fun trace system => MetadataFresh (callLog trace) system.device) (fun _ _ => True)
    (metadataFresh_powerOn rfl nvs) ?_ (fun _ _ => trivial) split
  intro trace state action next _ fresh _ taken
  rw [callLog_snoc]
  exact metadataFresh_step fresh taken

/-- What a save of the staged credentials keeps, from what the staging left in the statics. -/
theorem metadataKept_iff {staging : Staging} {device : Device}
    (fresh : staging.oldBssidSet = false → staging.oldAuth = 0) (is : PendingIs staging device)
    (config : device.staConfig = staging.config) (named : device.pendingSsid.bytes ≠ []) :
    metadataKept (device.onGotIp .success).nvs device.staConfig ↔ staging.ownMetadata := by
  have ssidFits : device.pendingSsid.length < 64 := by
    rw [is.ssid]
    exact Nat.lt_succ_of_le (CString.take_length_le _ _)
  have passFits : device.pendingPass.length < 64 := by
    rw [is.pass]
    exact Nat.lt_succ_of_le (CString.take_length_le _ _)
  have stored := nvsRead_nvsWrite_success device.nvs device.pendingBssidSet device.pendingBssid
    device.pendingAuth named ssidFits passFits
  rw [is.bssidSet, is.bssid, is.auth] at stored
  have read : metadataKept (device.onGotIp .success).nvs device.staConfig ↔
      staging.auth = staging.config.thresholdAuthmode ∧
      staging.bssidSet = staging.config.bssidSet ∧
      (if staging.bssidSet then staging.bssid else 0) = staging.config.bssid := by
    simp only [metadataKept, Device.onGotIp, Device.savePending_named named, stored, config,
      Option.some.injEq, is.bssidSet, is.bssid, is.auth]
    constructor
    · rintro ⟨creds, rfl, auth, bssidSet, bssid, _⟩
      exact ⟨auth, bssidSet, bssid⟩
    · rintro ⟨auth, bssidSet, bssid⟩
      exact ⟨_, rfl, auth, bssidSet, bssid, auth⟩
  rw [read]
  cases found : staging.found with
  | some ap =>
      simp [Staging.ownMetadata, Staging.auth, Staging.bssidSet, Staging.bssid, Staging.config,
        Device.attemptConfig, found]
  | none =>
      cases set : staging.oldBssidSet with
      | true =>
          simp [Staging.ownMetadata, Staging.bssidSet, Staging.config, Device.attemptConfig,
            found, set]
      | false =>
          cases isOpen : staging.isOpen <;>
            simp [Staging.ownMetadata, Staging.auth, Staging.bssidSet, Staging.config,
              Device.attemptConfig, found, set, isOpen, fresh set, wifiAuthOpen,
              wifiAuthWpa2Psk]

/-- A save keeps the metadata of its attempt exactly when the attempt staged its own. -/
theorem saved_metadata_iff_own (nvs : Nvs) (trace : List (System × Action)) (final : System)
    (run : History nvs trace final) (unmixed : ∀ taken ∈ trace, savesUnmixed taken.1 taken.2) :
    ∀ front system back, trace = front ++ (system, .gotIp .success) :: back →
      system.device.pendingSsid.bytes ≠ [] →
      (metadataKept (system.device.onGotIp .success).nvs system.device.staConfig ↔
        ∃ staging, (callLog front).staging = some staging ∧ staging.ownMetadata) := by
  intro front system back split named
  have member : (system, Action.gotIp .success) ∈ trace := by simp [split]
  have closed : system.httpd.window = none := unmixed _ member named
  have tracked := tracked_before run
    (fun taken member => savesUnmixed_clean (unmixed taken member)) split
  obtain ⟨staging, staged, is, way⟩ := tracked.pending named
  have fresh := (metadataFresh_before run split).staged staging staged
  rcases way with opened | handed
  · simp [closed] at opened
  · rw [metadataKept_iff fresh is handed.config named]
    simp [staged]

def cafeAp : ApRecord where
  ssid := cafe
  bssid := 0x001122334455
  primary := 11
  rssi := -40
  authmode := 4
  ssid_fits := by decide

def cafeScan : ScanDriver := ⟨1, true, .ok, [cafeAp], by decide⟩

def scannedAttempt : List Action :=
  [.init .ready, .boot .ok cafeScan] ++ serveSave cafe cafePass false

theorem scanned_attempt_keeps_metadata :
    ∃ system : System, system.device.staConfig.thresholdAuthmode = 4 ∧
      metadataKept (system.device.onGotIp .success).nvs system.device.staConfig := by
  obtain ⟨system, final, run, ready⟩ := exists_gotIp_after .erased scannedAttempt
    (fun system => decide (system.device.pendingSsid.bytes ≠ []) &&
      decide (savesUnmixed system (.gotIp .success)) &&
      decide (system.device.staConfig.thresholdAuthmode = 4)) (by decide)
  simp only [Bool.and_eq_true, decide_eq_true_eq] at ready
  obtain ⟨⟨named, unmixed⟩, threshold⟩ := ready
  have earlier : ∀ taken ∈ Transition.execTrace step (System.powerOn .erased) scannedAttempt,
      savesUnmixed taken.1 taken.2 := by decide
  have own : ∃ staging, (callLog (Transition.execTrace step (System.powerOn .erased)
      scannedAttempt)).staging = some staging ∧ staging.ownMetadata :=
    ⟨_, rfl, by decide⟩
  exact ⟨system, threshold, (saved_metadata_iff_own _ _ _ run
    (List.forall_mem_append.mpr ⟨earlier, List.forall_mem_singleton.mpr unmixed⟩)
    _ _ _ rfl named).mpr own⟩

/-- A secured network that is not in the scan cache: the driver was given WPA2, the zero
initial auth mode is saved. -/
theorem hidden_network_saved_as_open :
    ¬ ∀ nvs trace final, History nvs trace final →
      (∀ taken ∈ trace, savesUnmixed taken.1 taken.2) →
      ∀ front system back, trace = front ++ (system, .gotIp .success) :: back →
        system.device.pendingSsid.bytes ≠ [] →
        metadataKept (system.device.onGotIp .success).nvs system.device.staConfig := by
  intro keeps
  obtain ⟨system, final, run, ready⟩ := exists_gotIp_after .erased cafeAttempt
    (fun system => decide (system.device.pendingSsid.bytes ≠ []) &&
      decide (savesUnmixed system (.gotIp .success)) &&
      decide (system.device.staConfig.thresholdAuthmode = wifiAuthWpa2Psk) &&
      decide ((nvsRead .ok (system.device.onGotIp .success).nvs).map Credentials.auth =
        some wifiAuthOpen)) (by decide)
  simp only [Bool.and_eq_true, decide_eq_true_eq] at ready
  obtain ⟨⟨⟨named, unmixed⟩, threshold⟩, storedAuth⟩ := ready
  have earlier : ∀ taken ∈ Transition.execTrace step (System.powerOn .erased) cafeAttempt,
      savesUnmixed taken.1 taken.2 := by decide
  obtain ⟨creds, read, auth, _⟩ := keeps _ _ _ run
    (List.forall_mem_append.mpr ⟨earlier, List.forall_mem_singleton.mpr unmixed⟩)
    _ _ _ rfl named
  rw [read, Option.map_some, auth, threshold] at storedAuth
  cases storedAuth

end HydroGovernor
