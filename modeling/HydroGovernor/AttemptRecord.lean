import HydroGovernor.Library.Transition
import HydroGovernor.ScanListing
import HydroGovernor.Tasks

/-! connect_sta one read of s_scan_records at a time, with scans that complete in between. -/

namespace HydroGovernor

open Firmware

def ApRecord.zero : ApRecord where
  ssid := CString.empty
  bssid := 0
  primary := 0
  rssi := 0
  authmode := wifiAuthOpen
  ssid_fits := Nat.zero_le 32

def ScanCache.slot (cache : ScanCache) (index : Nat) : ApRecord :=
  cache.records.getD index ApRecord.zero

/-- Where connect_sta is. `lookup` and `weigh` are the loop of find_scanned_ap, before and after
its strcmp; the other constructors name the statement that runs next. -/
inductive ConnectPc where
  | lookup (index : Nat) (best : Option Nat)
  | weigh (index : Nat) (best : Option Nat)
  | names (pointer : Option Nat)
  | threshold (pointer : Nat)
  | stageBssid (pointer : Nat)
  | stageAuth (pointer : Nat)
  | latchBssid (pointer : Nat)
  | notScanned
  | reset (pointer : Option Nat)
  | readChannel (pointer : Nat)
  | setChannel (pointer : Nat)
  | aligned (channel : Option UInt8)
  deriving DecidableEq, Repr

/-- The module state with `sta`, the local configuration of the call. -/
structure ConnectSystem where
  device : Device
  sta : WifiStaConfig
  pc : ConnectPc
  deriving DecidableEq, Repr

/-- `retune` is the driver moving the radio to another channel. -/
inductive ConnectAction where
  | connect
  | scanCompleted (driver : ScanDriver)
  | retune (channel : UInt8)
  deriving DecidableEq, Repr

/-- The next statement of connect_sta up to the one that enters CONNECTING. -/
def connectPiece (ssid pass : CString) (isOpen : Bool) (system : ConnectSystem) :
    Option ConnectSystem :=
  let device := system.device
  let sta := system.sta
  match system.pc with
  | .lookup index best =>
      if index < device.scan.count then
        if (device.scan.slot index).ssid ≠ ssid then
          some { system with pc := .lookup (index + 1) best }
        else some { system with pc := .weigh index best }
      else some { system with pc := .names best }
  | .weigh index none => some { system with pc := .lookup (index + 1) (some index) }
  | .weigh index (some best) =>
      if (device.scan.slot best).rssi < (device.scan.slot index).rssi then
        some { system with pc := .lookup (index + 1) (some index) }
      else some { system with pc := .lookup (index + 1) (some best) }
  | .names pointer =>
      some
        { device := { device with
            targetSsid := ssid.take 32, pendingSsid := ssid.take 63, pendingPass := pass.take 63 }
          sta := { WifiStaConfig.zero with
            ssid := CField.strncpy 32 31 ssid, password := CField.strncpy 64 63 pass }
          pc := match pointer with | some slot => .threshold slot | none => .notScanned }
  | .threshold pointer =>
      some { system with
        sta := { sta with thresholdAuthmode := (device.scan.slot pointer).authmode }
        pc := .stageBssid pointer }
  | .stageBssid pointer =>
      some { system with
        device := { device with
          pendingBssidSet := true, pendingBssid := (device.scan.slot pointer).bssid }
        pc := .stageAuth pointer }
  | .stageAuth pointer =>
      some { system with
        device := { device with pendingAuth := (device.scan.slot pointer).authmode }
        pc := .latchBssid pointer }
  | .latchBssid pointer =>
      some { system with
        sta := { sta with bssidSet := true, bssid := (device.scan.slot pointer).bssid }
        pc := .reset (some pointer) }
  | .notScanned =>
      some { system with
        sta := { sta with thresholdAuthmode := if isOpen then wifiAuthOpen else wifiAuthWpa2Psk }
        pc := .reset none }
  | .reset pointer =>
      -- the retry counter, esp_wifi_disconnect and the 600 ms wait
      some { system with
        device := { device with retryCount := 0 }
        pc := match pointer with | some slot => .readChannel slot | none => .aligned none }
  | .readChannel pointer =>
      if device.channel ≠ (device.scan.slot pointer).primary then
        some { system with pc := .setChannel pointer }
      else some { system with pc := .aligned (some device.channel) }
  | .setChannel pointer =>
      some { system with
        device := { device with channel := (device.scan.slot pointer).primary }
        pc := .aligned (some (device.scan.slot pointer).primary) }
  | .aligned _ => none

def connectStep (ssid pass : CString) (isOpen : Bool) (system : ConnectSystem) :
    ConnectAction → Option ConnectSystem
  | .connect => connectPiece ssid pass isOpen system
  | .scanCompleted driver => some { system with device := system.device.publishScan driver }
  | .retune channel => some { system with device := { system.device with channel := channel } }

def ConnectSystem.called (device : Device) : ConnectSystem :=
  ⟨device, WifiStaConfig.zero, .lookup 0 none⟩

abbrev ConnectHistory (device : Device) (ssid pass : CString) (isOpen : Bool)
    (trace : List (ConnectSystem × ConnectAction)) (system : ConnectSystem) : Prop :=
  Transition.Run (connectStep ssid pass isOpen) (ConnectSystem.called device) trace system

/-- What an attempt takes from a record. -/
structure AccessPoint where
  ssid : CString
  bssid : Bssid
  authmode : AuthMode
  primary : UInt8
  deriving DecidableEq, Repr

def ApRecord.accessPoint (ap : ApRecord) : AccessPoint :=
  ⟨ap.ssid, ap.bssid, ap.authmode, ap.primary⟩

def ConnectPc.pointers : ConnectPc → List Nat
  | .lookup _ best => best.toList
  | .weigh index best => index :: best.toList
  | .names pointer => pointer.toList
  | .threshold pointer => [pointer]
  | .stageBssid pointer => [pointer]
  | .stageAuth pointer => [pointer]
  | .latchBssid pointer => [pointer]
  | .notScanned => []
  | .reset pointer => pointer.toList
  | .readChannel pointer => [pointer]
  | .setChannel pointer => [pointer]
  | .aligned _ => []

/-- A record of the name that the search has yet to reach. -/
def ScanCache.Ahead (cache : ScanCache) (ssid : CString) (index : Nat) : Prop :=
  ∃ later < cache.count, index ≤ later ∧ (cache.slot later).ssid = ssid

instance (cache : ScanCache) (ssid : CString) (index : Nat) : Decidable (cache.Ahead ssid index) :=
  inferInstanceAs
    (Decidable (∃ later < cache.count, index ≤ later ∧ (cache.slot later).ssid = ssid))

/-- While find_scanned_ap has found none, the new records have one of the name ahead of it. -/
def KeepsSearch (ssid : CString) (after : ScanCache) : ConnectPc → Prop
  | .lookup index none => after.Ahead ssid index
  | _ => True

instance (ssid : CString) (after : ScanCache) : (pc : ConnectPc) →
    Decidable (KeepsSearch ssid after pc)
  | .lookup index none => inferInstanceAs (Decidable (after.Ahead ssid index))
  | .lookup _ (some _) => isTrue trivial
  | .weigh _ _ => isTrue trivial
  | .names _ => isTrue trivial
  | .threshold _ => isTrue trivial
  | .stageBssid _ => isTrue trivial
  | .stageAuth _ => isTrue trivial
  | .latchBssid _ => isTrue trivial
  | .notScanned => isTrue trivial
  | .reset _ => isTrue trivial
  | .readChannel _ => isTrue trivial
  | .setChannel _ => isTrue trivial
  | .aligned _ => isTrue trivial

/-- A scan that completes leaves the access points that connect_sta points at where they are, and
the search something to find. -/
def KeepsTarget (ssid : CString) (system : ConnectSystem) : ConnectAction → Prop
  | .scanCompleted driver =>
      (∀ pointer ∈ system.pc.pointers,
        ((updateScanCache driver system.device.scan).slot pointer).accessPoint =
          (system.device.scan.slot pointer).accessPoint) ∧
        KeepsSearch ssid (updateScanCache driver system.device.scan) system.pc
  | .connect => True
  | .retune _ => True

instance (ssid : CString) (system : ConnectSystem) : (action : ConnectAction) →
    Decidable (KeepsTarget ssid system action)
  | .scanCompleted driver => inferInstanceAs (Decidable ((∀ pointer ∈ system.pc.pointers,
      ((updateScanCache driver system.device.scan).slot pointer).accessPoint =
        (system.device.scan.slot pointer).accessPoint) ∧
      KeepsSearch ssid (updateScanCache driver system.device.scan) system.pc))
  | .connect => isTrue trivial
  | .retune _ => isTrue trivial

/-- The values that an attempt uses are those of this record. -/
structure FromRecord (system : ConnectSystem) (channel : Option UInt8) (ap : ApRecord) : Prop where
  threshold : system.sta.thresholdAuthmode = ap.authmode
  latched : system.sta.bssidSet = true ∧ system.sta.bssid = ap.bssid
  staged : system.device.pendingBssidSet = true ∧ system.device.pendingBssid = ap.bssid
  stagedAuth : system.device.pendingAuth = ap.authmode
  channel : channel = some ap.primary

/-- When the channel is aligned, all values come from one record of the name that
s_scan_records held in the course of the call. -/
def UsesOneRecord (ssid : CString) (trace : List (ConnectSystem × ConnectAction))
    (system : ConnectSystem) : Prop :=
  ∀ channel, system.pc = .aligned channel →
    ∃ ap, (∃ taken ∈ trace, ap ∈ taken.1.device.scan.records) ∧ ap.ssid = ssid ∧
      FromRecord system channel ap

/-! The slots -/

theorem slot_mem {cache : ScanCache} {index : Nat} (inside : index < cache.records.length) :
    cache.slot index ∈ cache.records := by
  rw [ScanCache.slot, List.getD_eq_getElem _ _ inside]
  exact List.getElem_mem inside

theorem updateScanCache_sizes (driver : ScanDriver) {cache : ScanCache}
    (counted : cache.count ≤ cache.records.length) :
    cache.records.length ≤ (updateScanCache driver cache).records.length ∧
      (updateScanCache driver cache).count ≤ (updateScanCache driver cache).records.length := by
  unfold updateScanCache
  split
  · exact ⟨le_refl _, Nat.zero_le _⟩
  split
  · exact ⟨le_refl _, counted⟩
  split
  · exact ⟨le_refl _, Nat.zero_le _⟩
  · simp only [List.length_append, List.length_drop]
    omega

/-! The scan cache of a device -/

/-- What a step of the tasks does to the scan cache. -/
inductive ScanWrites (before : ScanCache) : ScanCache → Prop where
  | nothing : ScanWrites before before
  | emptied : ScanWrites before { before with json := emptyJson }
  | published (driver : ScanDriver) : ScanWrites before (updateScanCache driver before)
  | restarted : ScanWrites before ScanCache.blank

theorem httpdStep_scan {system next : System} {ret : EspErr}
    (taken : httpdStep system ret = some next) :
    ScanWrites system.device.scan next.device.scan := by
  unfold httpdStep at taken
  cases pc : system.httpd with
  | connectAlign config pointer =>
      simp only [pc, Option.some.injEq] at taken
      subst taken
      obtain ⟨channel, aligned⟩ := system.device.alignChannel_frame pointer
      simp only [aligned]
      exact .nothing
  | connectConfigure config =>
      simp only [pc] at taken
      split at taken
      · cases taken
        exact .nothing
      · cases taken
        exact .restarted
  | scanMark =>
      simp only [pc, Option.some.injEq] at taken
      subst taken
      exact .emptied
  | _ =>
      simp only [pc] at taken
      (try split at taken) <;> cases taken <;> exact .nothing

theorem mainStep_scan {system next : System} {ret : EspErr} {outcome : NvsOutcome}
    (taken : mainStep system ret outcome = some next) :
    ScanWrites system.device.scan next.device.scan := by
  unfold mainStep at taken
  cases pc : system.main with
  | restarting =>
      simp only [pc, Option.some.injEq] at taken
      subst taken
      exact .restarted
  | bootWait since =>
      simp only [pc] at taken
      repeat' (split at taken)
      all_goals
        cases taken
        try exact .nothing
  | _ =>
      simp only [pc] at taken
      (try split at taken) <;> cases taken <;> exact .nothing

theorem step_scan {system next : System} {action : Action}
    (taken : step system action = some next) : ScanWrites system.device.scan next.device.scan := by
  cases action with
  | httpd ret => exact httpdStep_scan taken
  | main ret outcome => exact mainStep_scan taken
  | disconnected reason outcome =>
      obtain ⟨-, rfl⟩ := disconnected_cases taken
      obtain ⟨_, _, _, _, _, _, frame⟩ := system.device.onDisconnected_frame reason outcome
      simp only [frame]
      exact .nothing
  | gotIp outcome =>
      obtain ⟨-, rfl⟩ := gotIp_cases taken
      obtain ⟨_, _, _, frame⟩ := system.device.onGotIp_frame outcome
      simp only [frame]
      exact .nothing
  | delayed index =>
      obtain ⟨_, _, active, device⟩ := delayedStep_device taken
      rw [device]
      exact .nothing
  | init flash =>
      obtain ⟨_, rfl⟩ := init_cases taken
      rcases initStep_cases system flash with ⟨_, ready⟩ | ⟨_, aborted⟩
      · rw [ready]
        exact .nothing
      · rw [aborted]
        exact .restarted
  | boot opens driver =>
      rcases (boot_cases taken).2 with ⟨-, rfl⟩ | ⟨creds, -, rfl⟩
      · exact .published driver
      · exact .nothing
  | scanPublish driver =>
      simp only [step] at taken
      split at taken
      · cases taken
        exact .published driver
      · cases taken
  | restart =>
      cases taken
      exact .restarted
  | _ =>
      simp only [step] at taken
      repeat' (split at taken)
      all_goals
        cases taken
        try exact .nothing

theorem ScanWrites.counted {before after : ScanCache} (writes : ScanWrites before after)
    (counted : before.count ≤ before.records.length) : after.count ≤ after.records.length := by
  cases writes with
  | nothing => exact counted
  | emptied => exact counted
  | published driver => exact (updateScanCache_sizes driver counted).2
  | restarted => exact Nat.zero_le _

theorem scanCounted_of_history {nvs : Nvs} {trace : List (System × Action)} {system : System}
    (run : History nvs trace system) :
    system.device.scan.count ≤ system.device.scan.records.length := by
  apply run.invariant_state
    (fun system => system.device.scan.count ≤ system.device.scan.records.length)
  · exact Nat.zero_le _
  · intro before action after counted taken
    exact (step_scan taken).counted counted

/-! The call -/

section

variable {ssid pass : CString} {isOpen : Bool}

/-- The slot holds an access point of the name. -/
structure PointsAt (ssid : CString) (scan : ScanCache) (pointer : Nat) (point : AccessPoint) :
    Prop where
  inside : pointer < scan.records.length
  holds : (scan.slot pointer).accessPoint = point
  named : point.ssid = ssid

def Copied (system : ConnectSystem) (point : AccessPoint) : Prop :=
  system.sta.thresholdAuthmode = point.authmode ∧
    (system.sta.bssidSet = true ∧ system.sta.bssid = point.bssid) ∧
    (system.device.pendingBssidSet = true ∧ system.device.pendingBssid = point.bssid) ∧
    system.device.pendingAuth = point.authmode

/-- Where the call is and what it has read so far, all of it from the slot it points at. -/
def ConnectStage (ssid : CString) (trace : List (ConnectSystem × ConnectAction))
    (system : ConnectSystem) : Prop :=
  match system.pc with
  | .lookup index none => system.device.scan.Ahead ssid index
  | .lookup _ (some best) => ∃ point, PointsAt ssid system.device.scan best point
  | .weigh index best =>
      (∃ point, PointsAt ssid system.device.scan index point) ∧
        ∀ strongest ∈ best, ∃ point, PointsAt ssid system.device.scan strongest point
  | .names none => False
  | .names (some pointer) => ∃ point, PointsAt ssid system.device.scan pointer point
  | .threshold pointer => ∃ point, PointsAt ssid system.device.scan pointer point
  | .stageBssid pointer =>
      ∃ point, PointsAt ssid system.device.scan pointer point ∧
        system.sta.thresholdAuthmode = point.authmode
  | .stageAuth pointer =>
      ∃ point, PointsAt ssid system.device.scan pointer point ∧
        system.sta.thresholdAuthmode = point.authmode ∧
        system.device.pendingBssidSet = true ∧ system.device.pendingBssid = point.bssid
  | .latchBssid pointer =>
      ∃ point, PointsAt ssid system.device.scan pointer point ∧
        system.sta.thresholdAuthmode = point.authmode ∧
        (system.device.pendingBssidSet = true ∧ system.device.pendingBssid = point.bssid) ∧
        system.device.pendingAuth = point.authmode
  | .notScanned => False
  | .reset none => False
  | .reset (some pointer) =>
      ∃ point, PointsAt ssid system.device.scan pointer point ∧ Copied system point
  | .readChannel pointer =>
      ∃ point, PointsAt ssid system.device.scan pointer point ∧ Copied system point
  | .setChannel pointer =>
      ∃ point, PointsAt ssid system.device.scan pointer point ∧ Copied system point
  | .aligned channel =>
      ∃ ap, (∃ taken ∈ trace, ap ∈ taken.1.device.scan.records) ∧ ap.ssid = ssid ∧
        FromRecord system channel ap

structure ConnectInv (ssid : CString) (trace : List (ConnectSystem × ConnectAction))
    (system : ConnectSystem) : Prop where
  counted : system.device.scan.count ≤ system.device.scan.records.length
  stage : ConnectStage ssid trace system

theorem FromRecord.later {trace more : List (ConnectSystem × ConnectAction)}
    {system next : ConnectSystem} {channel : Option UInt8}
    (uses : ∃ ap, (∃ taken ∈ trace, ap ∈ taken.1.device.scan.records) ∧ ap.ssid = ssid ∧
      FromRecord system channel ap)
    (same : ∀ ap, FromRecord system channel ap → FromRecord next channel ap) :
    ∃ ap, (∃ taken ∈ trace ++ more, ap ∈ taken.1.device.scan.records) ∧ ap.ssid = ssid ∧
      FromRecord next channel ap := by
  obtain ⟨ap, ⟨taken, member, stored⟩, named, copy⟩ := uses
  exact ⟨ap, ⟨taken, List.mem_append_left _ member, stored⟩, named, same ap copy⟩

theorem Copied.fromRecord {trace : List (ConnectSystem × ConnectAction)}
    {system next : ConnectSystem} {pointer : Nat} {point : AccessPoint}
    (points : PointsAt ssid system.device.scan pointer point) (copied : Copied next point) :
    ∃ ap, (∃ taken ∈ trace ++ [(system, .connect)], ap ∈ taken.1.device.scan.records) ∧
      ap.ssid = ssid ∧ FromRecord next (some (system.device.scan.slot pointer).primary) ap := by
  obtain ⟨inside, rfl, named⟩ := points
  refine ⟨system.device.scan.slot pointer, ?_, named, ?_⟩
  · exact ⟨_, List.mem_append_right _ (List.mem_singleton_self _), slot_mem inside⟩
  · obtain ⟨threshold, latched, staged, stagedAuth⟩ := copied
    exact ⟨threshold, latched, staged, stagedAuth, rfl⟩

theorem connectStage_search {trace : List (ConnectSystem × ConnectAction)}
    {system next : ConnectSystem} (inv : ConnectInv ssid trace system) {index : Nat}
    {best : Option Nat} (pc : system.pc = .lookup index best)
    (taken : connectPiece ssid pass isOpen system = some next) :
    ConnectStage ssid (trace ++ [(system, .connect)]) next := by
  have stage := inv.stage
  have counted := inv.counted
  simp only [ConnectStage, pc] at stage
  simp only [connectPiece, pc] at taken
  split at taken
  · rename_i more
    split at taken
    · rename_i other
      cases taken
      cases best with
      | none =>
          obtain ⟨later, inside, behind, named⟩ := stage
          have moved : later ≠ index := by
            rintro rfl
            exact other named
          exact ⟨later, inside, by omega, named⟩
      | some strongest => exact stage
    · rename_i same
      cases taken
      refine ⟨⟨_, ⟨by simp only; omega, rfl, not_not.mp same⟩⟩, ?_⟩
      intro strongest is
      cases best with
      | none => cases is
      | some before =>
          cases is
          exact stage
  · rename_i done
    cases taken
    cases best with
    | none =>
        obtain ⟨later, inside, behind, -⟩ := stage
        omega
    | some strongest => exact stage

theorem connectStage_piece {trace : List (ConnectSystem × ConnectAction)}
    {system next : ConnectSystem} (inv : ConnectInv ssid trace system)
    (taken : connectPiece ssid pass isOpen system = some next) :
    ConnectStage ssid (trace ++ [(system, .connect)]) next := by
  obtain ⟨device, sta, pc⟩ := system
  cases pc with
  | lookup index best => exact connectStage_search inv rfl taken
  | weigh index best =>
      obtain ⟨here, before⟩ := inv.stage
      cases best with
      | none =>
          cases taken
          exact here
      | some strongest =>
          simp only [connectPiece] at taken
          split at taken
          · cases taken
            exact here
          · cases taken
            exact before strongest rfl
  | names pointer =>
      cases taken
      cases pointer with
      | none => exact inv.stage
      | some slot =>
          obtain ⟨point, points⟩ := inv.stage
          exact ⟨point, points⟩
  | threshold pointer =>
      cases taken
      obtain ⟨_, ⟨inside, rfl, named⟩⟩ := inv.stage
      exact ⟨_, ⟨inside, rfl, named⟩, rfl⟩
  | stageBssid pointer =>
      cases taken
      obtain ⟨_, ⟨inside, rfl, named⟩, threshold⟩ := inv.stage
      exact ⟨_, ⟨inside, rfl, named⟩, threshold, rfl, rfl⟩
  | stageAuth pointer =>
      cases taken
      obtain ⟨_, ⟨inside, rfl, named⟩, threshold, staged⟩ := inv.stage
      exact ⟨_, ⟨inside, rfl, named⟩, threshold, staged, rfl⟩
  | latchBssid pointer =>
      cases taken
      obtain ⟨_, ⟨inside, rfl, named⟩, threshold, staged, stagedAuth⟩ := inv.stage
      exact ⟨_, ⟨inside, rfl, named⟩, threshold, ⟨rfl, rfl⟩, staged, stagedAuth⟩
  | notScanned => exact absurd inv.stage not_false
  | reset pointer =>
      cases taken
      cases pointer with
      | none => exact absurd inv.stage not_false
      | some slot =>
          obtain ⟨point, points, copied⟩ := inv.stage
          exact ⟨point, points, copied⟩
  | readChannel pointer =>
      obtain ⟨point, points, copied⟩ := inv.stage
      simp only [connectPiece] at taken
      split at taken
      · cases taken
        exact ⟨point, points, copied⟩
      · rename_i already
        cases taken
        rw [not_not.mp already]
        exact Copied.fromRecord points copied
  | setChannel pointer =>
      obtain ⟨point, points, copied⟩ := inv.stage
      cases taken
      exact Copied.fromRecord points copied
  | aligned channel => cases taken

theorem connectPiece_scan {system next : ConnectSystem}
    (taken : connectPiece ssid pass isOpen system = some next) :
    next.device.scan = system.device.scan := by
  obtain ⟨device, sta, pc⟩ := system
  cases pc with
  | lookup index best =>
      simp only [connectPiece] at taken
      repeat' (split at taken)
      all_goals
        cases taken
        rfl
  | weigh index best =>
      cases best with
      | none =>
          cases taken
          rfl
      | some strongest =>
          simp only [connectPiece] at taken
          split at taken
          · cases taken
            rfl
          · cases taken
            rfl
  | readChannel pointer =>
      simp only [connectPiece] at taken
      split at taken
      · cases taken
        rfl
      · cases taken
        rfl
  | aligned channel => cases taken
  | _ =>
      cases taken
      rfl

theorem PointsAt.kept {scan after : ScanCache} {pointer : Nat} {point : AccessPoint}
    (points : PointsAt ssid scan pointer point)
    (longer : scan.records.length ≤ after.records.length)
    (same : (after.slot pointer).accessPoint = (scan.slot pointer).accessPoint) :
    PointsAt ssid after pointer point :=
  ⟨Nat.lt_of_lt_of_le points.inside longer, same.trans points.holds, points.named⟩

/-- A scan that keeps the target leaves the call where it is with what it has read. -/
theorem connectStage_scanned {trace : List (ConnectSystem × ConnectAction)}
    {system : ConnectSystem} {driver : ScanDriver} (inv : ConnectInv ssid trace system)
    (kept : KeepsTarget ssid system (.scanCompleted driver)) :
    ConnectStage ssid (trace ++ [(system, .scanCompleted driver)])
      { system with device := system.device.publishScan driver } := by
  obtain ⟨longer, -⟩ := updateScanCache_sizes driver inv.counted
  obtain ⟨same, ahead⟩ := kept
  have stage := inv.stage
  have still {pointer : Nat} (pointed : pointer ∈ system.pc.pointers)
      (points : ∃ point, PointsAt ssid system.device.scan pointer point) :
      ∃ point, PointsAt ssid (updateScanCache driver system.device.scan) pointer point := by
    obtain ⟨point, points⟩ := points
    exact ⟨point, points.kept longer (same pointer pointed)⟩
  have copied {pointer : Nat} {Also : AccessPoint → Prop} (pointed : pointer ∈ system.pc.pointers)
      (points : ∃ point, PointsAt ssid system.device.scan pointer point ∧ Also point) :
      ∃ point, PointsAt ssid (updateScanCache driver system.device.scan) pointer point ∧
        Also point := by
    obtain ⟨point, points, also⟩ := points
    exact ⟨point, points.kept longer (same pointer pointed), also⟩
  obtain ⟨device, sta, pc⟩ := system
  cases pc with
  | lookup index best =>
      cases best with
      | none => exact ahead
      | some strongest => exact still (by simp [ConnectPc.pointers]) stage
  | weigh index best =>
      refine ⟨still (by simp [ConnectPc.pointers]) stage.1, ?_⟩
      intro strongest is
      exact still (by simp [ConnectPc.pointers, Option.mem_def.mp is]) (stage.2 strongest is)
  | names pointer =>
      cases pointer with
      | none => exact stage
      | some slot => exact still (by simp [ConnectPc.pointers]) stage
  | threshold pointer => exact still (by simp [ConnectPc.pointers]) stage
  | stageBssid pointer => exact copied (by simp [ConnectPc.pointers]) stage
  | stageAuth pointer => exact copied (by simp [ConnectPc.pointers]) stage
  | latchBssid pointer => exact copied (by simp [ConnectPc.pointers]) stage
  | notScanned => exact stage
  | reset pointer =>
      cases pointer with
      | none => exact stage
      | some slot => exact copied (by simp [ConnectPc.pointers]) stage
  | readChannel pointer => exact copied (by simp [ConnectPc.pointers]) stage
  | setChannel pointer => exact copied (by simp [ConnectPc.pointers]) stage
  | aligned channel =>
      apply FromRecord.later stage
      intro ap copy
      exact ⟨copy.threshold, copy.latched, copy.staged, copy.stagedAuth, copy.channel⟩

theorem connectStage_retuned {trace : List (ConnectSystem × ConnectAction)}
    {system : ConnectSystem} {channel : UInt8} (stage : ConnectStage ssid trace system) :
    ConnectStage ssid (trace ++ [(system, .retune channel)])
      { system with device := { system.device with channel := channel } } := by
  obtain ⟨device, sta, pc⟩ := system
  cases pc with
  | aligned aligned =>
      apply FromRecord.later stage
      intro ap copy
      exact ⟨copy.threshold, copy.latched, copy.staged, copy.stagedAuth, copy.channel⟩
  | lookup index best =>
      cases best with
      | none => exact stage
      | some strongest => exact stage
  | names pointer =>
      cases pointer with
      | none => exact stage
      | some slot => exact stage
  | reset pointer =>
      cases pointer with
      | none => exact stage
      | some slot => exact stage
  | _ => exact stage

theorem connectInv_step {trace : List (ConnectSystem × ConnectAction)}
    {system next : ConnectSystem} {action : ConnectAction} (inv : ConnectInv ssid trace system)
    (kept : KeepsTarget ssid system action)
    (taken : connectStep ssid pass isOpen system action = some next) :
    ConnectInv ssid (trace ++ [(system, action)]) next := by
  cases action with
  | connect =>
      refine ⟨?_, connectStage_piece inv taken⟩
      rw [connectPiece_scan taken]
      exact inv.counted
  | scanCompleted driver =>
      cases taken
      exact ⟨(updateScanCache_sizes driver inv.counted).2, connectStage_scanned inv kept⟩
  | retune channel =>
      cases taken
      exact ⟨inv.counted, connectStage_retuned inv.stage⟩

/-- A call that starts with the name in the scan cache uses one record throughout, whatever scans
complete on the way, if they keep its target. -/
theorem attempt_uses_one_record (device : Device) (ssid pass : CString) (isOpen : Bool)
    (trace : List (ConnectSystem × ConnectAction)) (final : ConnectSystem)
    (run : ConnectHistory device ssid pass isOpen trace final)
    (counted : device.scan.count ≤ device.scan.records.length)
    (scanned : ∃ ap ∈ device.scan.records.take device.scan.count, ap.ssid = ssid)
    (kept : ∀ taken ∈ trace, KeepsTarget ssid taken.1 taken.2) :
    UsesOneRecord ssid trace final := by
  have start : ConnectInv ssid [] (ConnectSystem.called device) := by
    refine ⟨counted, ?_⟩
    obtain ⟨ap, member, named⟩ := scanned
    obtain ⟨index, inside, rfl⟩ := List.mem_iff_getElem.mp member
    rw [List.length_take] at inside
    have found : (device.scan.slot index).ssid = ssid := by
      rw [ScanCache.slot, List.getD_eq_getElem _ _ (by omega)]
      simpa using named
    exact ⟨index, by simp only [ConnectSystem.called]; omega, Nat.zero_le _, found⟩
  have inv : ConnectInv ssid trace final :=
    run.invariant (ConnectInv ssid) (KeepsTarget ssid) start
      (fun _ _ _ _ _ inv kept taken => connectInv_step inv kept taken) kept
  intro channel aligned
  have stage := inv.stage
  simpa only [ConnectStage, aligned] using stage

def terraceHeard : Device :=
  { Device.powerOn .erased with scan := updateScanCache terraceTwice ScanCache.blank }

def attemptAcross (driver : ScanDriver) : List ConnectAction :=
  List.replicate 11 ConnectAction.connect ++
    .scanCompleted driver :: List.replicate 2 ConnectAction.connect

def terraceLouder : ScanDriver where
  apNum := 1
  allocates := true
  fetch := .ok
  records := [{ terrace with rssi := -48 }]
  records_le := by decide

theorem attempt_across_louder_scan :
    ∃ trace final, UsesOneRecord terrace.ssid trace final ∧ final.pc = .aligned (some 6) := by
  obtain ⟨final, run, aligned⟩ := Transition.exists_run_of_exec (attemptAcross terraceLouder)
    (fun (system : ConnectSystem) => decide (system.pc = .aligned (some 6)))
    (show (Transition.exec (connectStep terrace.ssid CString.empty true)
      (ConnectSystem.called terraceHeard) _).any _ = true by decide +kernel)
  have kept : ∀ taken ∈ Transition.execTrace (connectStep terrace.ssid CString.empty true)
      (ConnectSystem.called terraceHeard) (attemptAcross terraceLouder),
      KeepsTarget terrace.ssid taken.1 taken.2 := by decide +kernel
  exact ⟨_, final, attempt_uses_one_record terraceHeard terrace.ssid CString.empty true _ final run
    (by decide +kernel) (by decide +kernel) kept, of_decide_eq_true aligned⟩

def orchardInstead : ScanDriver where
  apNum := 1
  allocates := true
  fetch := .ok
  records := [⟨CString.ofBuffer (ascii "orchard"), 0x02000000000b, 11, -52, wifiAuthWpa2Psk,
    by decide⟩]
  records_le := by decide

theorem attempt_mixes_records :
    ¬ ∀ device ssid pass isOpen trace final, ConnectHistory device ssid pass isOpen trace final →
      device.scan.count ≤ device.scan.records.length →
      (∃ ap ∈ device.scan.records.take device.scan.count, ap.ssid = ssid) →
      UsesOneRecord ssid trace final := by
  intro every
  obtain ⟨final, run, aligned⟩ := Transition.exists_run_of_exec (attemptAcross orchardInstead)
    (fun (system : ConnectSystem) => decide (system.pc = .aligned (some 11)))
    (show (Transition.exec (connectStep terrace.ssid CString.empty true)
      (ConnectSystem.called terraceHeard) _).any _ = true by decide +kernel)
  obtain ⟨ap, ⟨taken, member, stored⟩, named, copy⟩ :=
    every terraceHeard terrace.ssid CString.empty true _ final run (by decide +kernel)
      (by decide +kernel) _ (of_decide_eq_true aligned)
  have elsewhere : ∀ taken ∈ Transition.execTrace (connectStep terrace.ssid CString.empty true)
      (ConnectSystem.called terraceHeard) (attemptAcross orchardInstead),
      ∀ ap ∈ taken.1.device.scan.records, ap.ssid = terrace.ssid → ap.primary ≠ 11 := by
    decide +kernel
  have channel : some 11 = some ap.primary := copy.channel
  exact elsewhere taken member ap stored named (Option.some.inj channel).symm

/-! The same call with nothing in between -/

theorem deref_slot {cache : ScanCache} {pointer : Nat} {ap : ApRecord}
    (found : cache.deref (some pointer) = some ap) : cache.slot pointer = ap := by
  have stored : cache.records[pointer]? = some ap := found
  rw [ScanCache.slot, List.getD_eq_getElem?_getD, stored, Option.getD_some]

/-- The loop of find_scanned_ap, undisturbed. -/
theorem search_undisturbed (ssid pass : CString) (isOpen : Bool) (device : Device)
    (sta : WifiStaConfig)
    (counted : device.scan.count ≤ device.scan.records.length) (left index : Nat)
    (best : Option (Nat × ApRecord)) (size : device.scan.count - index = left)
    (stored : ∀ found ∈ best, device.scan.slot found.1 = found.2) :
    ∃ trace, Transition.Run (connectStep ssid pass isOpen)
      ⟨device, sta, .lookup index (best.map Prod.fst)⟩ trace
      ⟨device, sta, .names ((findScannedApFrom ssid
        ((device.scan.records.take device.scan.count).drop index) index best).map Prod.fst)⟩ := by
  induction left generalizing index best with
  | zero =>
      have nothing : (device.scan.records.take device.scan.count).drop index = [] := by
        rw [List.drop_eq_nil_iff, List.length_take]
        omega
      have left : connectStep ssid pass isOpen
          ⟨device, sta, .lookup index (best.map Prod.fst)⟩ .connect =
            some ⟨device, sta, .names (best.map Prod.fst)⟩ := by
        simp only [connectStep, connectPiece]
        rw [if_neg (by omega)]
      rw [nothing, findScannedApFrom]
      exact ⟨_, Transition.Run.nil.snoc left⟩
  | succ left ih =>
      have inside : index < (device.scan.records.take device.scan.count).length := by
        rw [List.length_take]
        omega
      have here : (device.scan.records.take device.scan.count)[index] = device.scan.slot index := by
        rw [List.getElem_take, ScanCache.slot, List.getD_eq_getElem _ _ (by omega)]
      have more : index < device.scan.count := by omega
      rw [List.drop_eq_getElem_cons inside, here, findScannedApFrom]
      by_cases named : (device.scan.slot index).ssid = ssid
      · have entered : connectStep ssid pass isOpen
            ⟨device, sta, .lookup index (best.map Prod.fst)⟩ .connect =
              some ⟨device, sta, .weigh index (best.map Prod.fst)⟩ := by
          simp only [connectStep, connectPiece]
          rw [if_pos more, if_neg (not_not.mpr named)]
        have weighed : connectStep ssid pass isOpen
            ⟨device, sta, .weigh index (best.map Prod.fst)⟩ .connect =
              some ⟨device, sta, .lookup (index + 1)
                ((considerAp ssid index (device.scan.slot index) best).map Prod.fst)⟩ := by
          cases best with
          | none =>
              rw [considerAp, if_neg (not_not.mpr named)]
              rfl
          | some strongest =>
              have slot := stored strongest rfl
              simp only [connectStep, connectPiece, Option.map_some, slot]
              rw [considerAp, if_neg (not_not.mpr named)]
              split <;> rfl
        have still : ∀ found ∈ considerAp ssid index (device.scan.slot index) best,
            device.scan.slot found.1 = found.2 := by
          intro found is
          rcases considerAp_spec is with before | ⟨rfl, _⟩
          · exact stored found before
          · rfl
        obtain ⟨trace, run⟩ := ih (index + 1) _ (by omega) still
        exact ⟨_, .cons entered (.cons weighed run)⟩
      · have skipped : connectStep ssid pass isOpen
            ⟨device, sta, .lookup index (best.map Prod.fst)⟩ .connect =
              some ⟨device, sta, .lookup (index + 1) (best.map Prod.fst)⟩ := by
          simp only [connectStep, connectPiece]
          rw [if_pos more, if_pos named]
        have kept : considerAp ssid index (device.scan.slot index) best = best := by
          cases best with
          | none => rw [considerAp, if_pos named]
          | some strongest => rw [considerAp, if_pos named]
        obtain ⟨trace, run⟩ := ih (index + 1) best (by omega) stored
        rw [kept]
        exact ⟨_, .cons skipped run⟩

/-- Undisturbed, the statements of the call add up to its pieces in the model of the tasks. -/
theorem undisturbed_attempt (device : Device) (ssid pass : CString) (isOpen : Bool)
    (counted : device.scan.count ≤ device.scan.records.length) :
    ∃ trace channel, ConnectHistory device ssid pass isOpen trace
      ⟨(device.stageAttempt ssid pass (device.scan.deref (findScannedAp device.scan ssid))
          ).alignChannel (findScannedAp device.scan ssid),
        Device.attemptConfig ssid pass isOpen
          (device.scan.deref (findScannedAp device.scan ssid)),
        .aligned channel⟩ := by
  obtain ⟨search, searched⟩ :=
    search_undisturbed ssid pass isOpen device WifiStaConfig.zero counted _ 0 none rfl nofun
  rw [List.drop_zero] at searched
  change Transition.Run _ _ search ⟨device, _, .names (findScannedAp device.scan ssid)⟩ at searched
  cases pointer : findScannedAp device.scan ssid with
  | none =>
      rw [pointer] at searched
      have rest : Transition.exec (connectStep ssid pass isOpen)
          ⟨device, WifiStaConfig.zero, .names none⟩ (List.replicate 3 .connect) =
            some ⟨device.stageAttempt ssid pass none, Device.attemptConfig ssid pass isOpen none,
              .aligned none⟩ := rfl
      exact ⟨_, none, searched.append (Transition.run_of_exec rest)⟩
  | some slot =>
      rw [pointer] at searched
      obtain ⟨ap, found, -⟩ := findScannedAp_deref pointer
      have stored := deref_slot found
      have copied : Transition.exec (connectStep ssid pass isOpen)
          ⟨device, WifiStaConfig.zero, .names (some slot)⟩ (List.replicate 6 .connect) =
            some ⟨device.stageAttempt ssid pass (some ap),
              Device.attemptConfig ssid pass isOpen (some ap), .readChannel slot⟩ := by
        rw [← stored]
        rfl
      have copying := searched.append (Transition.run_of_exec copied)
      have held : (device.stageAttempt ssid pass (some ap)).scan.slot slot = ap := stored
      have derefs : (device.stageAttempt ssid pass (some ap)).scan.deref (some slot) = some ap :=
        found
      rw [found, Device.alignChannel, derefs]
      dsimp only
      split
      · rename_i differs
        have aligning : Transition.exec (connectStep ssid pass isOpen)
            ⟨device.stageAttempt ssid pass (some ap),
              Device.attemptConfig ssid pass isOpen (some ap), .readChannel slot⟩
            [.connect, .connect] =
              some ⟨{ device.stageAttempt ssid pass (some ap) with channel := ap.primary },
                Device.attemptConfig ssid pass isOpen (some ap), .aligned (some ap.primary)⟩ := by
          simp only [Transition.exec, connectStep, connectPiece, held]
          rw [if_pos differs]
          simp only [held]
        exact ⟨_, _, copying.append (Transition.run_of_exec aligning)⟩
      · rename_i same
        have aligning : Transition.exec (connectStep ssid pass isOpen)
            ⟨device.stageAttempt ssid pass (some ap),
              Device.attemptConfig ssid pass isOpen (some ap), .readChannel slot⟩ [.connect] =
              some ⟨device.stageAttempt ssid pass (some ap),
                Device.attemptConfig ssid pass isOpen (some ap),
                .aligned (some (device.stageAttempt ssid pass (some ap)).channel)⟩ := by
          simp only [Transition.exec, connectStep, connectPiece, held]
          rw [if_neg same]
        exact ⟨_, _, copying.append (Transition.run_of_exec aligning)⟩

end

end HydroGovernor
