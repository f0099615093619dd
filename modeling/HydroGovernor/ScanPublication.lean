import HydroGovernor.Library.Transition
import HydroGovernor.ScanListing

/-! The scan statics under their two writers: the event task rewrites the list write by write
while the httpd task starts scans and reads. -/

namespace HydroGovernor

open Firmware

/-- Where the event task is in its handling of SCAN_DONE, past the write of s_scanning. -/
inductive PublishPc where
  | idle
  | fetch (driver : ScanDriver)
  | placeholder
  | opening (aps : List ApRecord)
  | listing (earlier rest : List ApRecord) (first : Bool) (pos : Nat)
  | entry (earlier : List ApRecord) (ap : ApRecord) (rest : List ApRecord) (pos : Nat)
  | closing (pos : Nat)
  deriving DecidableEq, Repr

/-- Where the httpd task is in wifi_manager_scan_start or wifi_manager_get_scan_json. -/
inductive ScanPc where
  | idle
  | startTest
  | startMark
  | startClearErr
  | startPlaceholder
  | startDriver
  | startFailed (ret : EspErr)
  | resultsTest
  | resultsErr
  | resultsCopy
  deriving DecidableEq, Repr

/-- `driverScanning`: the driver runs a scan whose SCAN_DONE has not been handled.
`completed`: the last scan whose SCAN_DONE has. -/
structure ScanSystem where
  scanning : Bool
  lastScanErr : EspErr
  records : List ApRecord
  count : Nat
  json : CField scanJsonSize
  event : PublishPc
  httpd : ScanPc
  driverScanning : Bool
  completed : Option ScanDriver
  deriving DecidableEq, Repr

def emptyList : CField scanJsonSize :=
  CField.strncpy scanJsonSize scanJsonSize (CString.ofBuffer emptyJson)

/-- When the web server starts. start_ap has scanned once, a direct STA boot has not. -/
def ScanSystem.booted : Option ScanDriver → ScanSystem
  | none => ⟨false, .ok, [], 0, emptyList, .idle, .idle, false, none⟩
  | some driver =>
      let cache := updateScanCache driver ScanCache.blank
      { scanning := false
        lastScanErr := .ok
        records := cache.records
        count := cache.count
        json := CField.strncpy scanJsonSize scanJsonSize (CString.ofBuffer cache.json)
        event := .idle
        httpd := .idle
        driverScanning := false
        completed := some driver }

inductive ScanAction where
  | getScan
  | getScanStatus
  | getScanResults
  | httpd (ret : EspErr)
  | scanDone (driver : ScanDriver)
  | publish
  deriving DecidableEq, Repr

/-- The next write of update_scan_cache. -/
def publishStep (system : ScanSystem) : Option ScanSystem :=
  match system.event with
  | .idle => none
  | .fetch driver =>
      if driver.apNum = 0 then some { system with count := 0, event := .placeholder }
      else if driver.allocates = false then some { system with event := .placeholder }
      else if driver.fetch ≠ .ok then some { system with count := 0, event := .placeholder }
      else
        some { system with
          records := driver.records ++ system.records.drop driver.records.length
          count := driver.records.length
          event := .opening driver.records }
  | .placeholder => some { system with json := emptyList, event := .idle }
  | .opening aps =>
      some { system with
        json := system.json.snprintf 0 (ascii "[")
        event := .listing [] aps true 1 }
  | .listing earlier rest first pos =>
      match rest with
      | [] => some { system with event := .closing pos }
      | ap :: rest =>
          if pos < scanJsonSize - 96 then
            if ap.ssid.bytes = [] then
              some { system with event := .listing (earlier ++ [ap]) rest first pos }
            else if earlier.any (fun other => decide (other.ssid = ap.ssid)) then
              some { system with event := .listing (earlier ++ [ap]) rest first pos }
            else if first then some { system with event := .entry earlier ap rest pos }
            else
              some { system with
                json := system.json.snprintf pos (ascii ",")
                event := .entry earlier ap rest (pos + 1) }
          else some { system with event := .closing pos }
  | .entry earlier ap rest pos =>
      some { system with
        json := system.json.snprintf pos (scanEntry ap)
        event := .listing (earlier ++ [ap]) rest false (pos + (scanEntry ap).length) }
  | .closing pos =>
      some { system with json := system.json.snprintf pos (ascii "]"), event := .idle }

/-- The next read or write of the request being served. `ret` answers esp_wifi_scan_start. -/
def ScanSystem.httpdStep (system : ScanSystem) (ret : EspErr) : Option ScanSystem :=
  match system.httpd with
  | .idle => none
  | .startTest =>
      if system.scanning then some { system with httpd := .idle }
      else some { system with httpd := .startMark }
  | .startMark => some { system with scanning := true, httpd := .startClearErr }
  | .startClearErr => some { system with lastScanErr := .ok, httpd := .startPlaceholder }
  | .startPlaceholder => some { system with json := emptyList, httpd := .startDriver }
  | .startDriver =>
      if ret = .ok then some { system with driverScanning := true, httpd := .idle }
      else some { system with scanning := false, httpd := .startFailed ret }
  | .startFailed ret => some { system with lastScanErr := ret, httpd := .idle }
  | .resultsTest =>
      if system.scanning then some { system with httpd := .idle }
      else some { system with httpd := .resultsErr }
  | .resultsErr =>
      if system.lastScanErr ≠ .ok then some { system with httpd := .idle }
      else some { system with httpd := .resultsCopy }
  | .resultsCopy => some { system with httpd := .idle }

def scanStep (system : ScanSystem) : ScanAction → Option ScanSystem
  | .getScan =>
      if system.httpd = .idle then
        if system.scanning then some system else some { system with httpd := .startTest }
      else none
  | .getScanStatus => if system.httpd = .idle then some system else none
  | .getScanResults =>
      if system.httpd = .idle then some { system with httpd := .resultsTest } else none
  | .httpd ret => system.httpdStep ret
  | .scanDone driver =>
      if system.event = .idle ∧ system.driverScanning = true then
        if system.scanning then
          some { system with
            scanning := false
            event := .fetch driver
            driverScanning := false
            completed := some driver }
        else some { system with driverScanning := false, completed := some driver }
      else none
  | .publish => publishStep system

abbrev ScanHistory (boot : Option ScanDriver) (trace : List (ScanSystem × ScanAction))
    (system : ScanSystem) : Prop :=
  Transition.Run scanStep (ScanSystem.booted boot) trace system

/-- wifi_manager_get_scan_json has found s_scanning false and s_last_scan_err ESP_OK, and
copies. -/
def ScanSystem.copies (system : ScanSystem) : ScanAction → Bool
  | .httpd _ => decide (system.httpd = .resultsCopy)
  | _ => false

/-- `strncpy(buf, s_scan_json, len); buf[len - 1] = 0` with the 2048 bytes of the handler. -/
def ScanSystem.copied (system : ScanSystem) : CString :=
  CString.take (scanJsonSize - 1) system.json.value

/-- The driver calls of the step succeed. -/
def ScanAction.answered : ScanAction → Prop
  | .httpd ret => ret = .ok
  | .scanDone driver => driver.apNum ≠ 0 → driver.fetch = .ok
  | _ => True

/-- The calloc of the update_scan_cache that the step begins succeeds. -/
def ScanAction.allocated : ScanAction → Prop
  | .scanDone driver => driver.apNum ≠ 0 → driver.allocates = true
  | _ => True

instance : (action : ScanAction) → Decidable action.answered
  | .httpd ret => inferInstanceAs (Decidable (ret = .ok))
  | .scanDone driver => inferInstanceAs (Decidable (driver.apNum ≠ 0 → driver.fetch = .ok))
  | .getScan | .getScanStatus | .getScanResults | .publish => isTrue trivial

instance : (action : ScanAction) → Decidable action.allocated
  | .scanDone driver => inferInstanceAs (Decidable (driver.apNum ≠ 0 → driver.allocates = true))
  | .httpd _ | .getScan | .getScanStatus | .getScanResults | .publish => isTrue trivial

def ScanDriver.Succeeds (driver : ScanDriver) : Prop :=
  driver.apNum ≠ 0 → driver.allocates = true ∧ driver.fetch = .ok

/-- The copy is the list of the scan completed last, whole. -/
structure ListsWhole (driver : ScanDriver) (text : Bytes) : Prop where
  written : text = (updateScanCache driver ScanCache.blank).json
  reads : ∃ listed, ListsNetworks driver.records listed ∧
    Json.read (utf8Reading.text text) = some (.array (listed.map utf8Reading.value))

def copiesWhole (trace : List (ScanSystem × ScanAction)) : Prop :=
  ∀ taken ∈ trace, taken.1.copies taken.2 = true → ∀ driver, taken.1.completed = some driver →
    ListsWhole driver taken.1.copied.bytes

/-- No copy falls between the write of s_scanning and the last write of update_scan_cache. -/
def copiesApart (trace : List (ScanSystem × ScanAction)) : Prop :=
  ∀ taken ∈ trace, taken.1.copies taken.2 = true → taken.1.event = .idle

/-! What update_scan_cache writes -/

def finishedList (records : List ApRecord) : Bytes :=
  ascii "[" ++ (listedText (scanListed [] records) true ++ ascii "]")

theorem finishedList_written {driver : ScanDriver} (succeeds : driver.Succeeds) :
    (updateScanCache driver ScanCache.blank).json = finishedList driver.records := by
  by_cases nothing : driver.apNum = 0
  · obtain ⟨noRecords, blank⟩ := updateScanCache_nothing nothing ScanCache.blank
    rw [blank, noRecords]
    rfl
  · obtain ⟨allocates, fetches⟩ := succeeds nothing
    exact updateScanCache_json ⟨nothing, allocates, fetches⟩ _

theorem listsWhole_finished {driver : ScanDriver} (succeeds : driver.Succeeds) :
    ListsWhole driver (finishedList driver.records) := by
  obtain ⟨listed, lists, -, read⟩ := updateScanCache_listed driver ScanCache.blank succeeds
  rw [finishedList_written succeeds] at read
  exact ⟨(finishedList_written succeeds).symm, listed, lists, read⟩

theorem decimal_noNul (value : Int8) : (decimal value).all (· != 0) = true := by
  have digits : (ascii (Nat.repr value.toInt.natAbs)).all (· != 0) = true := by
    rw [List.all_eq_true]
    intro byte member
    obtain ⟨char, digit, rfl⟩ := List.mem_map.mp member
    rw [Nat.repr, String.toList_ofList] at digit
    have isDigit := Json.toDigits_isDigit _ char digit
    simp only [Char.isDigit, Bool.and_eq_true, decide_eq_true_eq] at isDigit
    have above : 48 ≤ char.toNat := UInt32.le_iff_toNat_le.mp isDigit.1
    have below : char.toNat ≤ 57 := UInt32.le_iff_toNat_le.mp isDigit.2
    apply bne_iff_ne.mpr
    intro isNul
    have zero : char.toNat % 2 ^ 8 = 0 := by
      rw [← UInt8.toNat_ofNat', isNul]
      rfl
    omega
  unfold decimal
  split
  · exact digits
  · exact digits

theorem escaped_noNul (name : CString) :
    (name.bytes.flatMap escapeByte).all (· != 0) = true := by
  rw [List.all_eq_true]
  intro byte member
  obtain ⟨ch, inName, escaped⟩ := List.mem_flatMap.mp member
  have nonzero := List.all_eq_true.mp name.noNul ch inName
  unfold escapeByte at escaped
  split at escaped
  · rcases List.mem_cons.mp escaped with rfl | last
    · rfl
    · rwa [List.mem_singleton.mp last]
  split at escaped
  · rwa [List.mem_singleton.mp escaped]
  · cases escaped

theorem scanEntry_noNul (ap : ApRecord) : (scanEntry ap).all (· != 0) = true := by
  have flag : (if ap.authmode = wifiAuthOpen then ascii "true" else ascii "false").all
      (· != 0) = true := by
    split
    · rfl
    · rfl
  simp only [scanEntry, escapeSsid_record, List.all_append, escaped_noNul, decimal_noNul, flag,
    Bool.and_true]
  rfl

theorem listedText_noNul (listed : List ApRecord) (first : Bool) :
    (listedText listed first).all (· != 0) = true := by
  induction listed generalizing first with
  | nil => rfl
  | cons ap rest ih =>
      rw [listedText, List.all_append, List.all_append, scanEntry_noNul, ih]
      cases first
      · rfl
      · rfl

theorem listedText_length_le (listed : List ApRecord) (first : Bool) :
    (listedText listed first).length ≤ 101 * listed.length := by
  induction listed generalizing first with
  | nil => exact Nat.zero_le _
  | cons ap rest ih =>
      have comma : (if first then [] else ascii "," : Bytes).length ≤ 1 := by
        cases first <;> decide
      have entry := scanEntry_length_le ap
      have later := ih false
      rw [listedText, List.length_append, List.length_append, List.length_cons]
      omega

theorem finishedList_noNul (records : List ApRecord) :
    (finishedList records).all (· != 0) = true := by
  rw [finishedList, List.all_append, List.all_append, listedText_noNul]
  rfl

theorem finishedList_length_lt {records : List ApRecord} (fetched : records.length ≤ 20) :
    (finishedList records).length < scanJsonSize := by
  have bounded := listedText_length_le (scanListed [] records) true
  have fewer := (scanListed_sublist [] records).length_le
  have brackets : (ascii "[").length = 1 ∧ (ascii "]").length = 1 := ⟨rfl, rfl⟩
  rw [finishedList, List.length_append, List.length_append, brackets.1, brackets.2, scanJsonSize]
  omega

theorem copied_finished {system : ScanSystem} {driver : ScanDriver}
    (holds : system.json.Holds (finishedList driver.records)) :
    system.copied.bytes = finishedList driver.records := by
  have short := finishedList_length_lt (le_trans driver.records_le (Nat.min_le_right _ _))
  rw [ScanSystem.copied, CString.take_bytes, holds.value (finishedList_noNul _)]
  exact List.take_of_length_le (Nat.le_pred_of_lt short)

/-! The state of the list at each write -/

/-- How far the list of `completed` is at each write of update_scan_cache. -/
def ScanSystem.Stage (system : ScanSystem) (driver : ScanDriver) : Prop :=
  match system.event with
  | .idle => system.json.Holds (finishedList driver.records)
  | .fetch answering => answering = driver ∧ driver.Succeeds
  | .placeholder => driver.records = []
  | .opening aps => aps = driver.records
  | .listing earlier rest first pos =>
      ∃ text, text.length = pos ∧ pos + 101 * rest.length ≤ 2021 ∧ system.json.Holds text ∧
        text ++ (listedText (scanListed earlier rest) first ++ ascii "]") =
          finishedList driver.records
  | .entry earlier ap rest pos =>
      ∃ text, text.length = pos ∧ pos + 100 + 101 * rest.length ≤ 2021 ∧ system.json.Holds text ∧
        text ++ (scanEntry ap ++
          (listedText (scanListed (earlier ++ [ap]) rest) false ++ ascii "]")) =
            finishedList driver.records
  | .closing pos =>
      ∃ text, text.length = pos ∧ pos ≤ 2021 ∧ system.json.Holds text ∧
        text ++ ascii "]" = finishedList driver.records

theorem emptyList_holds : emptyList.Holds (finishedList []) := CField.holds_strncpy (by decide)

theorem publishStep_frame {system next : ScanSystem} (taken : publishStep system = some next) :
    ∃ records count json event, next = { system with
      records := records, count := count, json := json, event := event } := by
  unfold publishStep at taken
  repeat' (split at taken)
  all_goals
    cases taken
    try exact ⟨_, _, _, _, rfl⟩

/-- The loop of update_scan_cache at one record. -/
theorem stage_listing {system next : ScanSystem} {driver : ScanDriver}
    {earlier rest : List ApRecord} {first : Bool} {pos : Nat}
    (pc : system.event = .listing earlier rest first pos) (stage : system.Stage driver)
    (taken : publishStep system = some next) : next.Stage driver := by
  have size : scanJsonSize = 2048 := rfl
  simp only [ScanSystem.Stage, pc] at stage
  obtain ⟨text, length, room, holds, whole⟩ := stage
  simp only [publishStep, pc] at taken
  cases rest with
  | nil =>
      cases taken
      exact ⟨text, length, by simpa using room, holds, whole⟩
  | cons ap rest =>
      rw [List.length_cons] at room
      have enters : pos < scanJsonSize - 96 := by omega
      simp only [enters, if_true] at taken
      rw [scanListed] at whole
      split at taken
      · rename_i hidden
        rw [if_pos hidden] at whole
        cases taken
        exact ⟨text, length, by omega, holds, whole⟩
      rename_i visible
      rw [if_neg visible] at whole
      split at taken
      · rename_i duplicate
        rw [if_pos duplicate] at whole
        cases taken
        exact ⟨text, length, by omega, holds, whole⟩
      rename_i isNew
      rw [if_neg isNew, listedText] at whole
      split at taken
      · rename_i isFirst
        cases taken
        refine ⟨text, length, by omega, holds, ?_⟩
        simpa [isFirst] using whole
      · rename_i notFirst
        cases taken
        have comma : (ascii ",").length = 1 := rfl
        subst length
        refine ⟨text ++ ascii ",", by rw [List.length_append, comma], by omega,
          CField.holds_snprintf holds.starts (by omega), ?_⟩
        simpa [notFirst] using whole

/-- Each write takes the list one stage on. -/
theorem stage_publish {system next : ScanSystem} {driver : ScanDriver}
    (stage : system.Stage driver) (taken : publishStep system = some next) :
    next.Stage driver := by
  have size : scanJsonSize = 2048 := rfl
  cases pc : system.event with
  | listing earlier rest first pos => exact stage_listing pc stage taken
  | idle => simp [publishStep, pc] at taken
  | fetch answering =>
      simp only [ScanSystem.Stage, pc] at stage
      simp only [publishStep, pc] at taken
      obtain ⟨rfl, succeeds⟩ := stage
      split at taken
      · rename_i nothing
        cases taken
        exact (updateScanCache_nothing nothing ScanCache.blank).1
      · rename_i found
        obtain ⟨allocates, fetches⟩ := succeeds found
        rw [if_neg (by simp [allocates]), if_neg (by simp [fetches])] at taken
        cases taken
        rfl
  | placeholder =>
      simp only [ScanSystem.Stage, pc] at stage
      simp only [publishStep, pc] at taken
      cases taken
      simp only [ScanSystem.Stage, stage]
      exact emptyList_holds
  | opening aps =>
      simp only [ScanSystem.Stage, pc] at stage
      simp only [publishStep, pc] at taken
      cases taken
      have fetched : driver.records.length ≤ 20 :=
        le_trans driver.records_le (Nat.min_le_right _ _)
      have starts : system.json.bytes.take ([] : Bytes).length = [] := rfl
      have fits : ([] : Bytes).length + (ascii "[").length < scanJsonSize := by decide
      exact ⟨ascii "[", rfl, by rw [stage]; omega, CField.holds_snprintf starts fits,
        by rw [stage, finishedList]⟩
  | entry earlier ap rest pos =>
      simp only [ScanSystem.Stage, pc] at stage
      simp only [publishStep, pc] at taken
      obtain ⟨text, rfl, room, holds, whole⟩ := stage
      cases taken
      have entry := scanEntry_length_le ap
      refine ⟨text ++ scanEntry ap, List.length_append, by omega,
        CField.holds_snprintf holds.starts (by omega), ?_⟩
      rw [List.append_assoc, whole]
  | closing pos =>
      simp only [ScanSystem.Stage, pc] at stage
      simp only [publishStep, pc] at taken
      obtain ⟨text, rfl, room, holds, whole⟩ := stage
      cases taken
      have bracket : (ascii "]").length = 1 := rfl
      simp only [ScanSystem.Stage, ← whole]
      exact CField.holds_snprintf holds.starts (by omega)

/-! Runs -/

/-- Between the write of s_scanning and the call of esp_wifi_scan_start. -/
def ScanPc.starting : ScanPc → Bool
  | .startClearErr => true
  | .startPlaceholder => true
  | .startDriver => true
  | _ => false

/-- wifi_manager_scan_start or wifi_manager_get_scan_json has found s_scanning false. -/
def ScanPc.foundIdle : ScanPc → Bool
  | .startMark => true
  | .resultsErr => true
  | .resultsCopy => true
  | _ => false

/-- s_scanning is true from the request until the SCAN_DONE of its scan. While it is false,
every write has taken the list of the last scan one stage on. -/
structure ScanInv (system : ScanSystem) : Prop where
  starting : system.httpd.starting = true →
    system.scanning = true ∧ system.driverScanning = false
  found : system.httpd.foundIdle = true → system.scanning = false
  driver : system.driverScanning = true → system.scanning = true
  unfailed : ∀ ret, system.httpd ≠ .startFailed ret
  succeeded : ∀ driver, system.completed = some driver → driver.Succeeds
  staged : system.scanning = false → ∀ driver, system.completed = some driver →
    system.Stage driver

theorem scanInv_booted {boot : Option ScanDriver} (succeeds : ∀ driver ∈ boot, driver.Succeeds) :
    ScanInv (ScanSystem.booted boot) := by
  cases boot with
  | none => exact ⟨nofun, nofun, nofun, nofun, nofun, nofun⟩
  | some driver =>
      refine ⟨nofun, nofun, nofun, nofun, succeeds, ?_⟩
      intro _ scanned is
      cases is
      have whole := finishedList_written (succeeds driver rfl)
      have fetched : driver.records.length ≤ 20 :=
        le_trans driver.records_le (Nat.min_le_right _ _)
      have text : CString.ofBuffer (updateScanCache driver ScanCache.blank).json =
          ⟨finishedList driver.records, finishedList_noNul _⟩ := by
        rw [whole]
        exact CString.ofBuffer_bytes ⟨finishedList driver.records, finishedList_noNul _⟩
      show CField.Holds (CField.strncpy scanJsonSize scanJsonSize
        (CString.ofBuffer (updateScanCache driver ScanCache.blank).json)) _
      rw [text]
      exact CField.holds_strncpy (finishedList_length_lt fetched)

theorem ScanInv.moved {system : ScanSystem} (inv : ScanInv system) {pc : ScanPc}
    (calm : pc.starting = false) (found : pc.foundIdle = true → system.scanning = false)
    (unfailed : ∀ ret, pc ≠ .startFailed ret) : ScanInv { system with httpd := pc } :=
  ⟨fun is => absurd (calm.symm.trans is) Bool.false_ne_true, found, inv.driver, unfailed,
    inv.succeeded, inv.staged⟩

theorem ScanInv.rested {system : ScanSystem} (inv : ScanInv system) :
    ScanInv { system with httpd := .idle } :=
  inv.moved rfl nofun nofun

theorem scanInv_httpd {system next : ScanSystem} {ret : EspErr} (inv : ScanInv system)
    (succeeds : ret = .ok) (taken : system.httpdStep ret = some next) : ScanInv next := by
  unfold ScanSystem.httpdStep at taken
  cases pc : system.httpd with
  | idle => simp [pc] at taken
  | startFailed ret => exact absurd pc (inv.unfailed ret)
  | startTest | resultsTest =>
      simp only [pc] at taken
      split at taken
      · cases taken
        exact inv.rested
      · rename_i off
        cases taken
        exact inv.moved rfl (fun _ => by simpa using off) nofun
  | resultsErr =>
      simp only [pc] at taken
      split at taken
      · cases taken
        exact inv.rested
      · cases taken
        exact inv.moved rfl (fun _ => inv.found (by rw [pc]; rfl)) nofun
  | resultsCopy =>
      simp only [pc] at taken
      cases taken
      exact inv.rested
  | startMark =>
      simp only [pc] at taken
      cases taken
      have off := inv.found (by rw [pc]; rfl)
      have unscanned : system.driverScanning = false := by
        cases scans : system.driverScanning with
        | true => exact (off.symm.trans (inv.driver scans)).symm
        | false => rfl
      exact ⟨fun _ => ⟨rfl, unscanned⟩, nofun, fun _ => rfl, nofun, inv.succeeded, nofun⟩
  | startClearErr | startPlaceholder =>
      simp only [pc] at taken
      cases taken
      have marked := inv.starting (by rw [pc]; rfl)
      exact ⟨fun _ => marked, nofun, inv.driver, nofun, inv.succeeded,
        fun off => absurd (off.symm.trans marked.1) Bool.false_ne_true⟩
  | startDriver =>
      simp only [pc] at taken
      rw [if_pos succeeds] at taken
      cases taken
      have marked := inv.starting (by rw [pc]; rfl)
      exact ⟨nofun, nofun, fun _ => marked.1, nofun, inv.succeeded, inv.staged⟩

theorem scanInv_step {system next : ScanSystem} {action : ScanAction} (inv : ScanInv system)
    (answered : action.answered) (allocated : action.allocated)
    (taken : scanStep system action = some next) : ScanInv next := by
  cases action with
  | httpd ret => exact scanInv_httpd inv answered taken
  | publish =>
      have staged := fun off driver is => stage_publish (inv.staged off driver is) taken
      obtain ⟨records, count, json, event, rfl⟩ := publishStep_frame taken
      exact ⟨inv.starting, inv.found, inv.driver, inv.unfailed, inv.succeeded, staged⟩
  | scanDone driver =>
      simp only [scanStep] at taken
      split at taken
      · rename_i ready
        have scans := ready.2
        rw [if_pos (inv.driver scans)] at taken
        cases taken
        have succeeds : driver.Succeeds := fun found => ⟨allocated found, answered found⟩
        refine ⟨fun is => ?_, fun _ => rfl, nofun, inv.unfailed, fun last is => ?_,
          fun _ last is => ?_⟩
        · exact absurd (scans.symm.trans (inv.starting is).2) Bool.noConfusion
        · cases is
          exact succeeds
        · cases is
          exact ⟨rfl, succeeds⟩
      · cases taken
  | getScan =>
      simp only [scanStep] at taken
      repeat' (split at taken)
      all_goals cases taken
      · exact inv
      · exact inv.moved rfl nofun nofun
  | getScanStatus =>
      simp only [scanStep] at taken
      split at taken <;> cases taken
      exact inv
  | getScanResults =>
      simp only [scanStep] at taken
      split at taken <;> cases taken
      exact inv.moved rfl nofun nofun

/-- Where no copy falls into an update_scan_cache, every copy is the whole list of the scan
completed last. -/
theorem copiesWhole_of_apart (boot : Option ScanDriver) (trace : List (ScanSystem × ScanAction))
    (final : ScanSystem) (run : ScanHistory boot trace final)
    (booted : ∀ driver ∈ boot, driver.Succeeds)
    (answered : ∀ taken ∈ trace, taken.2.answered)
    (allocated : ∀ taken ∈ trace, taken.2.allocated) (apart : copiesApart trace) :
    copiesWhole trace := by
  intro taken member copies driver completed
  obtain ⟨front, back, split⟩ := List.append_of_mem member
  have inv := run.invariant_before (fun _ system => ScanInv system)
    (fun _ action => action.answered ∧ action.allocated) (scanInv_booted booted)
    (fun _ _ _ _ _ inv allowed taken => scanInv_step inv allowed.1 allowed.2 taken)
    (fun taken member => ⟨answered taken member, allocated taken member⟩) split
  have copying : taken.1.httpd = .resultsCopy := by
    unfold ScanSystem.copies at copies
    split at copies
    · exact of_decide_eq_true copies
    · cases copies
  have staged := inv.staged (inv.found (by rw [copying]; rfl)) driver completed
  rw [ScanSystem.Stage, apart taken member copies] at staged
  rw [copied_finished staged]
  exact listsWhole_finished (inv.succeeded driver completed)

def scanTerrace : List ScanAction :=
  .getScan :: List.replicate 5 (ScanAction.httpd .ok) ++ [ScanAction.scanDone terraceTwice]

def readResults : List ScanAction := .getScanResults :: List.replicate 3 (.httpd .ok)

def resultsTooEarly : List (ScanSystem × ScanAction) :=
  Transition.execTrace scanStep (ScanSystem.booted none)
    (scanTerrace ++ .getScanStatus :: readResults)

theorem early_results_are_placeholder :
    ¬ ∀ boot trace final, ScanHistory boot trace final → (∀ driver ∈ boot, driver.Succeeds) →
      (∀ taken ∈ trace, taken.2.answered) → copiesWhole trace := by
  intro every
  obtain ⟨final, run, -⟩ := Transition.exists_run_of_exec
    (scanTerrace ++ .getScanStatus :: readResults) (fun (_ : ScanSystem) => true)
    (show (Transition.exec scanStep (ScanSystem.booted none) _).any _ = true by decide)
  have whole := every none resultsTooEarly final run nofun (by decide)
  have early : ∃ taken ∈ resultsTooEarly, taken.1.copies taken.2 = true ∧
      taken.1.completed = some terraceTwice ∧ taken.1.json = emptyList := by decide +kernel
  obtain ⟨taken, member, copies, completed, placeholder⟩ := early
  have written := (whole taken member copies terraceTwice completed).written
  have blank : taken.1.json.Holds (finishedList []) := by rw [placeholder]; exact emptyList_holds
  rw [finishedList_written (fun _ => ⟨rfl, rfl⟩), ScanSystem.copied, CString.take_bytes,
    blank.value (finishedList_noNul _)] at written
  exact absurd written (by decide)

def resultsInTime : List (ScanSystem × ScanAction) :=
  Transition.execTrace scanStep (ScanSystem.booted none)
    (scanTerrace ++ List.replicate 7 .publish ++ readResults)

theorem late_results_are_whole :
    copiesWhole resultsInTime ∧ ∃ taken ∈ resultsInTime, taken.1.copies taken.2 = true ∧
      taken.1.completed = some terraceTwice := by
  obtain ⟨final, run, -⟩ := Transition.exists_run_of_exec
    (scanTerrace ++ List.replicate 7 .publish ++ readResults) (fun (_ : ScanSystem) => true)
    (show (Transition.exec scanStep (ScanSystem.booted none) _).any _ = true by decide)
  refine ⟨copiesWhole_of_apart none resultsInTime final run nofun (by decide) (by decide) ?_, ?_⟩
  · show ∀ taken ∈ resultsInTime, _ → _
    decide
  · decide

end HydroGovernor
