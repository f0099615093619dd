import HydroGovernor.ScanCache

/-! The statics of wifi_manager.c and what each piece of its code does to them. A function
that yields or is preempted at several points is given as one definition for each piece. -/

namespace HydroGovernor

open Firmware

/-- `wifi_mgr_state_t`. -/
inductive MgrState where
  | idle
  | apOnly
  | connecting
  | connected
  | failed
  deriving DecidableEq, Repr

/-- `wifi_config_t.sta`, as far as the attempts differ in it. -/
structure WifiStaConfig where
  ssid : CField 32
  password : CField 64
  thresholdAuthmode : AuthMode
  bssidSet : Bool
  bssid : Bssid
  deriving DecidableEq, Repr

def WifiStaConfig.zero : WifiStaConfig :=
  { ssid := CField.strncpy 32 0 CString.empty
    password := CField.strncpy 64 0 CString.empty
    thresholdAuthmode := wifiAuthOpen
    bssidSet := false
    bssid := 0 }

/-- The reason code of a STA_DISCONNECTED event. -/
abbrev Reason := UInt8

def wifiReasonAuthExpire : Reason := 2
def wifiReasonMicFailure : Reason := 14
def wifiReason4WayHandshakeTimeout : Reason := 15
def wifiReasonNoApFound : Reason := 201
def wifiReasonAuthFail : Reason := 202
def wifiReasonHandshakeTimeout : Reason := 204

def wifiConnectTimeoutMs : Nat := 8000

/-- `auth_fail` of the event handler. -/
def authClass (reason : Reason) : Bool :=
  reason == wifiReasonAuthFail || reason == wifiReasonAuthExpire ||
    reason == wifiReasonHandshakeTimeout || reason == wifiReason4WayHandshakeTimeout ||
    reason == wifiReasonMicFailure

/-- The module statics with the NVS contents, the driver's station configuration and
channel, and the microsecond timer. -/
structure Device where
  state : MgrState
  apActive : Bool
  scanning : Bool
  connStartUs : Nat
  lastScanErr : EspErr
  targetSsid : CString
  scan : ScanCache
  pendingSsid : CString
  pendingPass : CString
  pendingBssid : Bssid
  pendingAuth : AuthMode
  pendingBssidSet : Bool
  retryCount : Nat
  bitStaConnected : Bool
  bitStaFailed : Bool
  nvs : Nvs
  staConfig : WifiStaConfig
  channel : UInt8
  clock : Nat
  deriving DecidableEq, Repr

/-- The statics at power-on; the NVS contents survive. -/
def Device.powerOn (nvs : Nvs) : Device where
  state := .idle
  apActive := false
  scanning := false
  connStartUs := 0
  lastScanErr := .ok
  targetSsid := CString.empty
  scan := ScanCache.blank
  pendingSsid := CString.empty
  pendingPass := CString.empty
  pendingBssid := 0
  pendingAuth := 0
  pendingBssidSet := false
  retryCount := 0
  bitStaConnected := false
  bitStaFailed := false
  nvs := nvs
  staConfig := WifiStaConfig.zero
  channel := 1
  clock := 0

namespace Device

def clearPendingCredentials (device : Device) : Device :=
  { device with pendingSsid := CString.empty, pendingPass := CString.empty }

/-! connect_sta -/

/-- The configuration that connect_sta builds for the record its lookup returned. -/
def attemptConfig (ssid pass : CString) (isOpen : Bool) : Option ApRecord → WifiStaConfig
  | some ap =>
      { ssid := CField.strncpy 32 31 ssid
        password := CField.strncpy 64 63 pass
        thresholdAuthmode := ap.authmode
        bssidSet := true
        bssid := ap.bssid }
  | none =>
      { ssid := CField.strncpy 32 31 ssid
        password := CField.strncpy 64 63 pass
        thresholdAuthmode := if isOpen then wifiAuthOpen else wifiAuthWpa2Psk
        bssidSet := false
        bssid := 0 }

/-- The copies into the statics: the target, the pending credentials, the metadata when the
name was in the scan cache, and the retry counter. -/
def stageAttempt (device : Device) (ssid pass : CString) (found : Option ApRecord) : Device :=
  { device with
    targetSsid := ssid.take 32
    pendingSsid := ssid.take 63
    pendingPass := pass.take 63
    pendingBssidSet := if found.isSome then true else device.pendingBssidSet
    pendingBssid := match found with | some ap => ap.bssid | none => device.pendingBssid
    pendingAuth := match found with | some ap => ap.authmode | none => device.pendingAuth
    retryCount := 0 }

/-- After the 600 ms wait the pointer is read again for the channel. -/
def alignChannel (device : Device) (pointer : Option Nat) : Device :=
  match device.scan.deref pointer with
  | some ap => if device.channel ≠ ap.primary then { device with channel := ap.primary } else device
  | none => device

theorem alignChannel_frame (device : Device) (pointer : Option Nat) :
    ∃ channel, device.alignChannel pointer = { device with channel := channel } := by
  unfold alignChannel
  split
  · split
    · exact ⟨_, rfl⟩
    · exact ⟨device.channel, rfl⟩
  · exact ⟨device.channel, rfl⟩

def enterConnecting (device : Device) : Device :=
  { device with
    state := .connecting
    connStartUs := device.clock
    bitStaConnected := false
    bitStaFailed := false }

def setStaConfig (device : Device) (config : WifiStaConfig) : Device :=
  { device with staConfig := config }

/-- The synchronous failure branch of esp_wifi_connect in connect_sta. -/
def connectSyncFailed (device : Device) : Device :=
  { device with state := .failed, bitStaFailed := true }

/-! wifi_manager_reconnect and the direct path of wifi_manager_start -/

def storedConfig (creds : Credentials) : WifiStaConfig where
  ssid := CField.strncpy 32 31 creds.ssid
  password := CField.strncpy 64 63 creds.pass
  thresholdAuthmode := creds.auth
  bssidSet := false
  bssid := 0

def targetStored (device : Device) (creds : Credentials) : Device :=
  { device with targetSsid := creds.ssid.take 32, retryCount := 0 }

/-- The synchronous failure branch of wifi_manager_reconnect. -/
def reconnectSyncFailed (device : Device) : Device :=
  { device with state := .failed }

def startSta (device : Device) (creds : Credentials) : Device :=
  { (device.targetStored creds).setStaConfig (storedConfig creds) with
    state := .connecting
    connStartUs := device.clock }

def bestChannel (cache : ScanCache) : UInt8 :=
  ((cache.records.take cache.count).foldl
    (fun (best : UInt8 × Int8) ap => if best.2 < ap.rssi then (ap.primary, ap.rssi) else best)
    (6, -128)).1

def startAp (device : Device) (driver : ScanDriver) : Device :=
  let scan := updateScanCache driver device.scan
  { device with scan := scan, channel := bestChannel scan, apActive := true, state := .apOnly }

/-! wifi_event_handler -/

def elapsedMs (device : Device) : Nat := (device.clock - device.connStartUs) / 1000

def attemptFailed (device : Device) : Device :=
  { device.clearPendingCredentials with state := .failed, bitStaFailed := true }

/-- STA_DISCONNECTED. The first one in CONNECTING re-applies the current configuration and
retries. Of the four ways to end an attempt only the first touches NVS. -/
def onDisconnected (device : Device) (reason : Reason) (outcome : NvsOutcome) : Device :=
  match device.state with
  | .connecting =>
      if device.retryCount < 1 then
        { device.setStaConfig device.staConfig with retryCount := device.retryCount + 1 }
      else if authClass reason then
        { device.attemptFailed with nvs := nvsClear outcome device.nvs }
      else if reason = wifiReasonNoApFound then device.attemptFailed
      else if wifiConnectTimeoutMs < device.elapsedMs then device.attemptFailed
      else device.attemptFailed
  | .connected => { device with state := .failed }
  | _ => device

theorem onDisconnected_connected {device : Device} (connected : device.state = .connected)
    (reason : Reason) (outcome : NvsOutcome) :
    device.onDisconnected reason outcome = { device with state := .failed } := by
  simp [onDisconnected, connected]

theorem onDisconnected_retry {device : Device} (connecting : device.state = .connecting)
    (unused : device.retryCount < 1) (reason : Reason) (outcome : NvsOutcome) :
    device.onDisconnected reason outcome =
      { device with retryCount := device.retryCount + 1 } := by
  simp [onDisconnected, connecting, unused, setStaConfig]

theorem onDisconnected_final {device : Device} (connecting : device.state = .connecting)
    (used : ¬ device.retryCount < 1) (reason : Reason) (outcome : NvsOutcome) :
    device.onDisconnected reason outcome =
      { device.attemptFailed with
        nvs := if authClass reason then nvsClear outcome device.nvs else device.nvs } := by
  by_cases auth : authClass reason = true
  · simp [onDisconnected, connecting, used, auth]
  · simp [onDisconnected, connecting, used, auth, attemptFailed, clearPendingCredentials]

theorem onDisconnected_other {device : Device} (notConnected : device.state ≠ .connected)
    (notConnecting : device.state ≠ .connecting) (reason : Reason) (outcome : NvsOutcome) :
    device.onDisconnected reason outcome = device := by
  cases state : device.state <;> simp_all [onDisconnected]

def savePending (device : Device) (outcome : NvsOutcome) : Device :=
  if device.pendingSsid.bytes ≠ [] then
    { device.clearPendingCredentials with
      nvs := (nvsWrite outcome device.nvs device.pendingSsid device.pendingPass
        device.pendingBssidSet device.pendingBssid device.pendingAuth).2 }
  else device

theorem savePending_nothing {device : Device} (nothing : device.pendingSsid.bytes = [])
    (outcome : NvsOutcome) : device.savePending outcome = device := by
  simp [savePending, nothing]

theorem savePending_named {device : Device} (named : device.pendingSsid.bytes ≠ [])
    (outcome : NvsOutcome) :
    device.savePending outcome =
      { device.clearPendingCredentials with
        nvs := (nvsWrite outcome device.nvs device.pendingSsid device.pendingPass
          device.pendingBssidSet device.pendingBssid device.pendingAuth).2 } := by
  simp [savePending, named]

def onGotIp (device : Device) (outcome : NvsOutcome) : Device :=
  { device.savePending outcome with state := .connected, bitStaConnected := true }

theorem onGotIp_nothing_pending (device : Device) (outcome : NvsOutcome) :
    (device.onGotIp outcome).pendingSsid.bytes = [] := by
  by_cases nothing : device.pendingSsid.bytes = []
  · simp [onGotIp, savePending_nothing nothing, nothing]
  · simp [onGotIp, savePending_named nothing, clearPendingCredentials]

theorem onDisconnected_nothing_pending {device : Device}
    (nothing : device.pendingSsid.bytes = []) (reason : Reason) (outcome : NvsOutcome) :
    (device.onDisconnected reason outcome).pendingSsid.bytes = [] := by
  by_cases connected : device.state = .connected
  · simpa [onDisconnected_connected connected] using nothing
  by_cases connecting : device.state = .connecting
  · by_cases unused : device.retryCount < 1
    · simpa [onDisconnected_retry connecting unused] using nothing
    · simp [onDisconnected_final connecting unused, attemptFailed, clearPendingCredentials]
  · simpa [onDisconnected_other connected connecting] using nothing

theorem onDisconnected_not_connected (device : Device) (reason : Reason) (outcome : NvsOutcome) :
    (device.onDisconnected reason outcome).state ≠ .connected := by
  by_cases connected : device.state = .connected
  · simp [onDisconnected_connected connected]
  by_cases connecting : device.state = .connecting
  · by_cases unused : device.retryCount < 1
    · simp [onDisconnected_retry connecting unused, connecting]
    · simp [onDisconnected_final connecting unused, attemptFailed]
  · rwa [onDisconnected_other connected connecting]

theorem onDisconnected_frame (device : Device) (reason : Reason) (outcome : NvsOutcome) :
    ∃ state ssid pass retryCount failed nvs, device.onDisconnected reason outcome =
      { device with
        state := state, pendingSsid := ssid, pendingPass := pass, retryCount := retryCount
        bitStaFailed := failed, nvs := nvs } := by
  by_cases connected : device.state = .connected
  · exact ⟨_, _, _, _, _, _, onDisconnected_connected connected reason outcome⟩
  by_cases connecting : device.state = .connecting
  · by_cases unused : device.retryCount < 1
    · exact ⟨_, _, _, _, _, _, onDisconnected_retry connecting unused reason outcome⟩
    · exact ⟨_, _, _, _, _, _, onDisconnected_final connecting unused reason outcome⟩
  · exact ⟨_, _, _, _, _, _, onDisconnected_other connected connecting reason outcome⟩

theorem onDisconnected_apActive (device : Device) (reason : Reason) (outcome : NvsOutcome) :
    (device.onDisconnected reason outcome).apActive = device.apActive := by
  obtain ⟨_, _, _, _, _, _, frame⟩ := device.onDisconnected_frame reason outcome
  rw [frame]

theorem onGotIp_frame (device : Device) (outcome : NvsOutcome) :
    ∃ ssid pass nvs, device.onGotIp outcome =
      { device with
        pendingSsid := ssid, pendingPass := pass, nvs := nvs
        state := .connected, bitStaConnected := true } := by
  by_cases nothing : device.pendingSsid.bytes = []
  · exact ⟨_, _, _, by rw [onGotIp, savePending_nothing nothing]⟩
  · exact ⟨_, _, _, by rw [onGotIp, savePending_named nothing]; rfl⟩

theorem onGotIp_apActive (device : Device) (outcome : NvsOutcome) :
    (device.onGotIp outcome).apActive = device.apActive := by
  obtain ⟨_, _, _, frame⟩ := device.onGotIp_frame outcome
  rw [frame]

def clearScanning (device : Device) : Device := { device with scanning := false }

def publishScan (device : Device) (driver : ScanDriver) : Device :=
  { device with scan := updateScanCache driver device.scan }

/-! wifi_manager_scan_start -/

def markScanning (device : Device) : Device :=
  { device with
    scanning := true
    lastScanErr := .ok
    scan := { device.scan with json := emptyJson } }

def scanStartFailed (device : Device) (ret : EspErr) : Device :=
  { device with scanning := false, lastScanErr := ret }

end Device

end HydroGovernor
