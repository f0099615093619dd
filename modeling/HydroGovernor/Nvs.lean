import HydroGovernor.Library.CString

/-! The credential store: the keys of the "wifi" NVS namespace and the helpers of
wifi_manager.c that write, erase and read them. -/

namespace HydroGovernor

open Firmware

/-- The `esp_err_t` values that the firmware returns or tests, and any other one. -/
inductive EspErr where
  | ok
  | fail
  | noMem
  | invalidState
  | notFound
  | timeout
  | invalidCrc
  | nvsNoFreePages
  | nvsNewVersionFound
  | other (code : Nat)
  deriving DecidableEq, Repr

/-- A 6-byte hardware address. -/
abbrev Bssid := BitVec 48

/-- `wifi_auth_mode_t`, stored in NVS as a byte. -/
abbrev AuthMode := UInt8

def wifiAuthOpen : AuthMode := 0
def wifiAuthWpa2Psk : AuthMode := 3

structure Nvs where
  ssid : Option CString
  pass : Option CString
  bssidSet : Option UInt8
  bssid : Option Bssid
  authmode : Option UInt8
  deriving DecidableEq, Repr

def Nvs.erased : Nvs := ⟨none, none, none, none, none⟩

/-- How the NVS calls of one storage operation answer. -/
structure NvsOutcome where
  opens : EspErr
  setSsid : Bool
  setPass : Bool
  setBssidSet : Bool
  setBssid : Bool
  setAuth : Bool
  erases : Bool
  commits : Bool
  deriving DecidableEq, Repr

def NvsOutcome.success : NvsOutcome := ⟨.ok, true, true, true, true, true, true, true⟩

/-- How nvs_flash_init answers at boot, whether nvs_flash_erase takes effect, and how
nvs_flash_init answers after it. -/
structure FlashOutcome where
  first : EspErr
  erases : Bool
  second : EspErr
  deriving DecidableEq, Repr

def FlashOutcome.ready : FlashOutcome := ⟨.ok, true, .ok⟩

/-- The part of wifi_manager_init that brings up NVS: its result goes to ESP_ERROR_CHECK. -/
def nvsInit (flash : FlashOutcome) (nvs : Nvs) : EspErr × Nvs :=
  if flash.first = .nvsNoFreePages ∨ flash.first = .nvsNewVersionFound then
    (flash.second, if flash.erases then Nvs.erased else nvs)
  else (flash.first, nvs)

/-- What nvs_read hands back. -/
structure Credentials where
  ssid : CString
  pass : CString
  bssidSet : Bool
  bssid : Bssid
  auth : AuthMode
  deriving DecidableEq, Repr

/-- The results of the set calls and of the commit are not looked at: the helper
answers ESP_OK as soon as the namespace opens. -/
def nvsWrite (outcome : NvsOutcome) (nvs : Nvs) (ssid pass : CString) (bssidSet : Bool)
    (bssid : Bssid) (auth : AuthMode) : EspErr × Nvs :=
  if outcome.opens ≠ .ok then (outcome.opens, nvs)
  else
    let staged : Nvs :=
      { ssid := if outcome.setSsid then some ssid else nvs.ssid
        pass := if outcome.setPass then some pass else nvs.pass
        bssidSet := if outcome.setBssidSet then some (if bssidSet then 1 else 0)
          else nvs.bssidSet
        bssid := if bssidSet && outcome.setBssid then some bssid else nvs.bssid
        authmode := if outcome.setAuth then some auth else nvs.authmode }
    (.ok, if outcome.commits then staged else nvs)

def NvsOutcome.clears (outcome : NvsOutcome) : Bool :=
  decide (outcome.opens = .ok) && outcome.erases && outcome.commits

def nvsClear (outcome : NvsOutcome) (nvs : Nvs) : Nvs :=
  if outcome.clears then Nvs.erased else nvs

/-- nvs_read with the callers' 64-byte buffers and their initial values for the optional
keys: a zero BSSID and WPA2. -/
def nvsRead (opens : EspErr) (nvs : Nvs) : Option Credentials :=
  if opens ≠ .ok then none
  else
    match nvs.ssid, nvs.pass with
    | some ssid, some pass =>
        if ssid.length < 64 ∧ ssid.bytes ≠ [] ∧ pass.length < 64 then
          let set := nvs.bssidSet.getD 0
          some
            { ssid := ssid
              pass := pass
              bssidSet := decide (set ≠ 0)
              bssid := if set ≠ 0 then nvs.bssid.getD 0 else 0
              auth := nvs.authmode.getD wifiAuthWpa2Psk }
        else none
    | _, _ => none

def Nvs.readable (nvs : Nvs) : Bool := (nvsRead .ok nvs).isSome

@[simp] theorem nvsRead_erased (opens : EspErr) : nvsRead opens Nvs.erased = none := by
  simp [nvsRead, Nvs.erased]

@[simp] theorem readable_erased : Nvs.erased.readable = false := by
  simp [Nvs.readable]

theorem readable_iff (nvs : Nvs) :
    nvs.readable = true ↔ ∃ ssid pass, nvs.ssid = some ssid ∧ nvs.pass = some pass ∧
      ssid.length < 64 ∧ ssid.bytes ≠ [] ∧ pass.length < 64 := by
  cases ssid : nvs.ssid with
  | none => simp [Nvs.readable, nvsRead, ssid]
  | some stored =>
      cases pass : nvs.pass with
      | none => simp [Nvs.readable, nvsRead, ssid, pass]
      | some secret =>
          by_cases accepted : stored.length < 64 ∧ stored.bytes ≠ [] ∧ secret.length < 64
          · simp [Nvs.readable, nvsRead, ssid, pass, accepted]
          · simp [Nvs.readable, nvsRead, ssid, pass, accepted]

theorem nvsWrite_readable {outcome : NvsOutcome} {nvs : Nvs} {ssid pass : CString}
    {bssidSet : Bool} {bssid : Bssid} {auth : AuthMode} (readable : nvs.readable = true)
    (named : ssid.bytes ≠ []) (ssidFits : ssid.length < 64) (passFits : pass.length < 64) :
    (nvsWrite outcome nvs ssid pass bssidSet bssid auth).2.readable = true := by
  obtain ⟨oldSsid, oldPass, storedSsid, storedPass, oldShort, oldNamed, oldFits⟩ :=
    (readable_iff nvs).mp readable
  unfold nvsWrite
  split
  · exact readable
  · rw [readable_iff]
    cases outcome.commits with
    | false => exact ⟨oldSsid, oldPass, storedSsid, storedPass, oldShort, oldNamed, oldFits⟩
    | true =>
        cases setSsid : outcome.setSsid <;> cases setPass : outcome.setPass <;>
          simp [*]

theorem nvsClear_of_clears {outcome : NvsOutcome} (clears : outcome.clears = true) (nvs : Nvs) :
    nvsClear outcome nvs = Nvs.erased := by
  simp [nvsClear, clears]

theorem nvsClear_of_fails {outcome : NvsOutcome} (fails : outcome.clears = false) (nvs : Nvs) :
    nvsClear outcome nvs = nvs := by
  simp [nvsClear, fails]

theorem nvsRead_nvsWrite_success (nvs : Nvs) {ssid pass : CString} (bssidSet : Bool)
    (bssid : Bssid) (auth : AuthMode) (named : ssid.bytes ≠ []) (ssidFits : ssid.length < 64)
    (passFits : pass.length < 64) :
    nvsRead .ok (nvsWrite .success nvs ssid pass bssidSet bssid auth).2 =
      some ⟨ssid, pass, bssidSet, if bssidSet then bssid else 0, auth⟩ := by
  cases bssidSet <;> simp [nvsRead, nvsWrite, NvsOutcome.success, named, ssidFits, passFits]

/-! What the answer of nvs_write says about the store -/

def Credentials.readBack (record : Credentials) (read : Option Credentials) : Prop :=
  ∃ creds, read = some creds ∧ creds.ssid = record.ssid ∧ creds.pass = record.pass ∧
    creds.bssidSet = record.bssidSet ∧ creds.auth = record.auth ∧
    (record.bssidSet = true → creds.bssid = record.bssid)

/-- After ESP_OK the record can be read back, after any other answer whatever could be read
before. -/
def honestWrite (outcome : NvsOutcome) (nvs : Nvs) (record : Credentials) : Prop :=
  let written := nvsWrite outcome nvs record.ssid record.pass record.bssidSet record.bssid
    record.auth
  (written.1 = .ok → record.readBack (nvsRead .ok written.2)) ∧
    (written.1 ≠ .ok → ∀ opens, nvsRead opens written.2 = nvsRead opens nvs)

/-- The set call of a key took effect and was committed. -/
def NvsOutcome.stores (outcome : NvsOutcome) (set : Bool) : Prop :=
  outcome.commits = true ∧ set = true

instance (outcome : NvsOutcome) (set : Bool) : Decidable (outcome.stores set) :=
  inferInstanceAs (Decidable (_ ∧ _))

/-- Every key whose new value was not stored reads as that value already. -/
structure NothingMissed (outcome : NvsOutcome) (nvs : Nvs) (record : Credentials) : Prop where
  ssid : outcome.stores outcome.setSsid ∨ nvs.ssid = some record.ssid
  pass : outcome.stores outcome.setPass ∨ nvs.pass = some record.pass
  bssidSet : outcome.stores outcome.setBssidSet ∨
    decide (nvs.bssidSet.getD 0 ≠ 0) = record.bssidSet
  bssid : record.bssidSet = true →
    outcome.stores outcome.setBssid ∨ nvs.bssid.getD 0 = record.bssid
  auth : outcome.stores outcome.setAuth ∨ nvs.authmode.getD wifiAuthWpa2Psk = record.auth

def Nvs.credentials (nvs : Nvs) (ssid pass : CString) : Credentials where
  ssid := ssid
  pass := pass
  bssidSet := decide (nvs.bssidSet.getD 0 ≠ 0)
  bssid := if nvs.bssidSet.getD 0 ≠ 0 then nvs.bssid.getD 0 else 0
  auth := nvs.authmode.getD wifiAuthWpa2Psk

theorem nvsRead_accepted {nvs : Nvs} {ssid pass : CString} (isSsid : nvs.ssid = some ssid)
    (isPass : nvs.pass = some pass) (ssidFits : ssid.length < 64) (named : ssid.bytes ≠ [])
    (passFits : pass.length < 64) : nvsRead .ok nvs = some (nvs.credentials ssid pass) := by
  simp only [nvsRead, isSsid, isPass]
  rw [if_neg (by decide), if_pos ⟨ssidFits, named, passFits⟩]
  rfl

/-- Reading back comes down to the five keys. -/
theorem readBack_iff {record : Credentials} {nvs : Nvs} (named : record.ssid.bytes ≠ [])
    (ssidFits : record.ssid.length < 64) (passFits : record.pass.length < 64) :
    record.readBack (nvsRead .ok nvs) ↔
      nvs.ssid = some record.ssid ∧ nvs.pass = some record.pass ∧
        decide (nvs.bssidSet.getD 0 ≠ 0) = record.bssidSet ∧
        (record.bssidSet = true → nvs.bssid.getD 0 = record.bssid) ∧
        nvs.authmode.getD wifiAuthWpa2Psk = record.auth := by
  have latched (set : decide (nvs.bssidSet.getD 0 ≠ 0) = record.bssidSet)
      (wanted : record.bssidSet = true) (ssid pass : CString) :
      (nvs.credentials ssid pass).bssid = nvs.bssid.getD 0 :=
    if_pos (of_decide_eq_true (set.trans wanted))
  constructor
  · rintro ⟨creds, read, ssid, pass, set, auth, bssid⟩
    have readable : nvs.readable = true := by rw [Nvs.readable, read, Option.isSome_some]
    obtain ⟨storedSsid, storedPass, isSsid, isPass, short, nonempty, fits⟩ :=
      (readable_iff nvs).mp readable
    rw [nvsRead_accepted isSsid isPass short nonempty fits] at read
    cases read
    refine ⟨isSsid.trans (congrArg some ssid), isPass.trans (congrArg some pass), set, ?_, auth⟩
    intro wanted
    rw [← latched set wanted storedSsid storedPass]
    exact bssid wanted
  · rintro ⟨ssid, pass, set, bssid, auth⟩
    refine ⟨_, nvsRead_accepted ssid pass ssidFits named passFits, rfl, rfl, set, auth, ?_⟩
    intro wanted
    rw [latched set wanted]
    exact bssid wanted

theorem nvsWrite_opened {outcome : NvsOutcome} (opened : outcome.opens = .ok) (nvs : Nvs)
    (ssid pass : CString) (bssidSet : Bool) (bssid : Bssid) (auth : AuthMode) :
    nvsWrite outcome nvs ssid pass bssidSet bssid auth = (.ok,
      { ssid := if outcome.stores outcome.setSsid then some ssid else nvs.ssid
        pass := if outcome.stores outcome.setPass then some pass else nvs.pass
        bssidSet := if outcome.stores outcome.setBssidSet then some (if bssidSet then 1 else 0)
          else nvs.bssidSet
        bssid := if outcome.stores (bssidSet && outcome.setBssid) then some bssid else nvs.bssid
        authmode := if outcome.stores outcome.setAuth then some auth else nvs.authmode }) := by
  rw [nvsWrite, if_neg (not_not.mpr opened)]
  cases commits : outcome.commits with
  | false => simp [NvsOutcome.stores, commits]
  | true => simp [NvsOutcome.stores, commits]

theorem key_wanted {Value : Type} {new old : Value} (wanted : Value → Prop) (right : wanted new)
    (stored : Prop) [Decidable stored] :
    wanted (if stored then new else old) ↔ stored ∨ wanted old := by
  by_cases stores : stored
  · simp [stores, right]
  · simp [stores]

/-- A write into a namespace that opens is honest exactly when it missed nothing. -/
theorem honestWrite_opened {outcome : NvsOutcome} {nvs : Nvs} {record : Credentials}
    (opened : outcome.opens = .ok) (named : record.ssid.bytes ≠ [])
    (ssidFits : record.ssid.length < 64) (passFits : record.pass.length < 64) :
    honestWrite outcome nvs record ↔ NothingMissed outcome nvs record := by
  have flag : decide ((some (if record.bssidSet then 1 else 0 : UInt8)).getD 0 ≠ 0) =
      record.bssidSet := by
    cases record.bssidSet with
    | false => rfl
    | true => rfl
  have blob : (record.bssidSet = true → Option.getD (if outcome.stores
        (record.bssidSet && outcome.setBssid) then some record.bssid else nvs.bssid) 0 =
          record.bssid) ↔
      (record.bssidSet = true →
        outcome.stores outcome.setBssid ∨ nvs.bssid.getD 0 = record.bssid) := by
    apply forall_congr'
    intro wanted
    rw [wanted, Bool.true_and]
    exact key_wanted (fun stored => Option.getD stored 0 = record.bssid) rfl _
  have honest : honestWrite outcome nvs record ↔ record.readBack (nvsRead .ok
      (nvsWrite outcome nvs record.ssid record.pass record.bssidSet record.bssid
        record.auth).2) := by
    simp [honestWrite, nvsWrite_opened opened]
  rw [honest, nvsWrite_opened opened, readBack_iff named ssidFits passFits]
  dsimp only
  rw [key_wanted (fun stored => stored = some record.ssid) rfl,
    key_wanted (fun stored => stored = some record.pass) rfl,
    key_wanted (fun stored => decide (Option.getD stored 0 ≠ 0) = record.bssidSet) flag,
    key_wanted (fun stored => Option.getD stored wifiAuthWpa2Psk = record.auth) rfl, blob]
  constructor
  · rintro ⟨ssid, pass, set, bssid, auth⟩
    exact ⟨ssid, pass, set, bssid, auth⟩
  · rintro ⟨ssid, pass, set, bssid, auth⟩
    exact ⟨ssid, pass, set, bssid, auth⟩

/-- nvs_write is honest exactly when the namespace does not open or no key is missed. -/
theorem honestWrite_iff (outcome : NvsOutcome) (nvs : Nvs) (record : Credentials)
    (named : record.ssid.bytes ≠ []) (ssidFits : record.ssid.length ≤ 63)
    (passFits : record.pass.length ≤ 63) :
    honestWrite outcome nvs record ↔ (outcome.opens = .ok → NothingMissed outcome nvs record) := by
  by_cases opened : outcome.opens = .ok
  · rw [honestWrite_opened opened named (Nat.lt_succ_of_le ssidFits) (Nat.lt_succ_of_le passFits)]
    simp only [opened, true_implies]
  · have refused : nvsWrite outcome nvs record.ssid record.pass record.bssidSet record.bssid
        record.auth = (outcome.opens, nvs) := if_pos opened
    simp only [honestWrite, refused, opened, false_implies, implies_true, and_self]

def cafeRecord : Credentials where
  ssid := CString.ofBuffer (ascii "cafe")
  pass := CString.ofBuffer (ascii "espresso1")
  bssidSet := true
  bssid := 0x0A1B2C3D4E5F
  auth := wifiAuthWpa2Psk

theorem fresh_write_honest : honestWrite .success Nvs.erased cafeRecord :=
  (honestWrite_iff .success Nvs.erased cafeRecord (by decide) (by decide) (by decide)).mpr
    (fun _ => ⟨Or.inl ⟨rfl, rfl⟩, Or.inl ⟨rfl, rfl⟩, Or.inl ⟨rfl, rfl⟩,
      fun _ => Or.inl ⟨rfl, rfl⟩, Or.inl ⟨rfl, rfl⟩⟩)

def fullAfterSsid : NvsOutcome :=
  { NvsOutcome.success with
    setPass := false, setBssidSet := false, setBssid := false, setAuth := false }

def barNvs : Nvs where
  ssid := some (CString.ofBuffer (ascii "bar"))
  pass := some (CString.ofBuffer (ascii "cappuccino"))
  bssidSet := some 0
  bssid := none
  authmode := some wifiAuthWpa2Psk

theorem mixed_record_reported_ok :
    ¬ ∀ (outcome : NvsOutcome) (nvs : Nvs) (record : Credentials), record.ssid.bytes ≠ [] →
      record.ssid.length ≤ 63 → record.pass.length ≤ 63 → honestWrite outcome nvs record := by
  intro honest
  obtain ⟨stored, -⟩ := honest fullAfterSsid barNvs cafeRecord (by decide) (by decide) (by decide)
  obtain ⟨creds, read, -, pass, -⟩ := stored rfl
  have mixed : nvsRead .ok (nvsWrite fullAfterSsid barNvs cafeRecord.ssid cafeRecord.pass
      cafeRecord.bssidSet cafeRecord.bssid cafeRecord.auth).2 =
    some (barNvs.credentials cafeRecord.ssid (CString.ofBuffer (ascii "cappuccino"))) := by decide
  rw [mixed] at read
  cases read
  exact absurd pass (by decide)

end HydroGovernor
