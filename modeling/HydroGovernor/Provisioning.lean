import HydroGovernor.SaveForm
import HydroGovernor.ScanListing
import HydroGovernor.Tasks

/-! Provisioning from end to end: from the scan record over the setup page and the form to the
configuration of the driver. -/

namespace HydroGovernor

open Firmware
open Firmware.Utf8 (Text)

/-- A WPA passphrase. -/
structure Passphrase (password : Text) : Prop where
  long : 8 ≤ password.length
  short : password.length ≤ 63
  printable : ∀ char ∈ password, 0x20 ≤ char.toNat ∧ char.toNat ≤ 0x7E

/-- A device that accepts /save and whose scan list, as it is now, holds the record `ap` of a
network with a printable UTF-8 name. -/
structure Offers (system : System) (ap : ApRecord) (name : Text) : Prop where
  accepts : system.accepts = true
  unprovisioned : system.device.state = .apOnly ∨ system.device.state = .failed
  scanned : ∃ driver before, ScanDriver.Delivers driver ∧
    system.device.scan = updateScanCache driver before ∧ ap ∈ driver.records
  visible : ap.ssid.bytes ≠ []
  named : Utf8.encode name = ap.ssid.bytes
  printable : ∀ byte ∈ ap.ssid.bytes, 0x20 ≤ byte

def ListsNetwork (system : System) (name : Text) : Prop :=
  ∃ networks, loadScan system.device.scan.json = some networks ∧
    ∃ network ∈ networks, network.ssid = name

/-- The form for the network is posted and received whole; connect_sta finds a record of its
name and hands esp_wifi_set_config exactly its name and the password. -/
def HandsExactly (system : System) (ssid : CString) (name password : Text) (isOpen : Bool) :
    Prop :=
  ∃ body given word lookedUp index found configured,
    onSubmit name password isOpen = .post body ∧
    receiveWhole body = body ∧
    saveHandler system.device.state body = .connect given word isOpen ∧
    Transition.exec step system [.postSave given word isOpen, .httpd .ok, .httpd .ok] =
      some lookedUp ∧
    lookedUp.httpd = .connectStage given word isOpen (some index) ∧
    lookedUp.device.scan.deref (some index) = some found ∧
    found.ssid = ssid ∧
    Transition.exec step lookedUp [.httpd .ok, .httpd .ok, .httpd .ok, .httpd .ok] =
      some configured ∧
    configured.device.staConfig.ssid.value = ssid ∧
    configured.device.staConfig.password.value.bytes = Utf8.encode password

/-- Names and passwords go through unchanged, whether the page took the network for open or
not. -/
structure PipelineIdentity (system : System) (ssid : CString) (name password : Text) : Prop where
  listed : ListsNetwork system name
  handed : ∀ isOpen, HandsExactly system ssid name password isOpen

namespace Passphrase

variable {password : Text}

theorem ascii (passphrase : Passphrase password) : ∀ char ∈ password, char.toNat < 0x80 := by
  intro char member
  have bounds := passphrase.printable char member
  omega

theorem encode_eq (passphrase : Passphrase password) :
    Utf8.encode password = password.map (fun char => UInt8.ofNat char.toNat) := by
  have single : ∀ char ∈ password,
      String.utf8EncodeChar char = [UInt8.ofNat char.toNat] :=
    fun char member => Utf8.encode_ascii (passphrase.ascii char member)
  rw [Utf8.encode, List.flatMap_congr single, List.map_eq_flatMap]

def text (passphrase : Passphrase password) : CString :=
  ⟨Utf8.encode password, by
    rw [passphrase.encode_eq, List.all_eq_true]
    intro byte member
    obtain ⟨char, inside, rfl⟩ := List.mem_map.mp member
    have bounds := passphrase.printable char inside
    have value : (UInt8.ofNat char.toNat).toNat = char.toNat :=
      Utf8.toNat_ofNat_small (by omega)
    rw [bne_iff_ne, ne_eq, ← UInt8.toNat_inj, value]
    intro zero
    rw [UInt8.toNat_zero] at zero
    omega⟩

theorem text_bytes (passphrase : Passphrase password) :
    passphrase.text.bytes = Utf8.encode password := rfl

theorem text_length (passphrase : Passphrase password) :
    passphrase.text.length = password.length := by
  rw [CString.length, text_bytes, passphrase.encode_eq, List.length_map]

theorem jsLength_eq (passphrase : Passphrase password) : jsLength password = password.length := by
  have units : ∀ char ∈ password, (if char.toNat < 0x10000 then 1 else 2) = 1 := by
    intro char member
    have small := passphrase.ascii char member
    rw [if_pos (by omega)]
  rw [jsLength, List.map_congr_left units, List.map_const', List.sum_replicate, smul_eq_mul,
    mul_one]

end Passphrase

theorem attemptConfig_ssid (ssid pass : CString) (isOpen : Bool) (found : Option ApRecord) :
    (Device.attemptConfig ssid pass isOpen found).ssid.value = ssid.take 31 := by
  cases found with
  | none => exact CField.strncpy_value ssid (by decide)
  | some ap => exact CField.strncpy_value ssid (by decide)

theorem attemptConfig_password (ssid pass : CString) (isOpen : Bool) (found : Option ApRecord) :
    (Device.attemptConfig ssid pass isOpen found).password.value = pass.take 63 := by
  cases found with
  | none => exact CField.strncpy_value pass (by decide)
  | some ap => exact CField.strncpy_value pass (by decide)

theorem not_busy {state : MgrState} (unprovisioned : state = .apOnly ∨ state = .failed) :
    ¬(state = .connecting ∨ state = .connected) := by
  rcases unprovisioned with rfl | rfl
  · decide
  · decide

theorem exec_lookup {system : System} (accepts : system.accepts = true)
    (unprovisioned : system.device.state = .apOnly ∨ system.device.state = .failed)
    (given word : CString) (isOpen : Bool) :
    Transition.exec step system [.postSave given word isOpen, .httpd .ok, .httpd .ok] =
      some { system with
        httpd := .connectStage given word isOpen (findScannedAp system.device.scan given) } := by
  simp [Transition.exec, step, accepts, not_busy unprovisioned, httpdStep, unprovisioned]

theorem exec_configure {system : System} {given word : CString} {isOpen : Bool}
    {pointer : Option Nat} (pc : system.httpd = .connectStage given word isOpen pointer) :
    ∃ configured,
      Transition.exec step system [.httpd .ok, .httpd .ok, .httpd .ok, .httpd .ok] =
        some configured ∧
      configured.device.staConfig =
        Device.attemptConfig given word isOpen (system.device.scan.deref pointer) := by
  let found := system.device.scan.deref pointer
  let staged := (system.device.stageAttempt given word found).alignChannel pointer
  let config := Device.attemptConfig given word isOpen found
  let configured : System :=
    { system with device := staged.enterConnecting.setStaConfig config, httpd := .connectLaunch }
  have executed :
      Transition.exec step system [.httpd .ok, .httpd .ok, .httpd .ok, .httpd .ok] =
        some configured := by
    simp [Transition.exec, step, httpdStep, pc, configured, staged, config, found]
  exact ⟨configured, executed, rfl⟩

namespace Offers

variable {system : System} {ap : ApRecord} {name password : Text}

theorem listsNetwork (offers : Offers system ap name) : ListsNetwork system name := by
  obtain ⟨driver, before, delivers, scanned, member⟩ := offers.scanned
  obtain ⟨networks, loaded, shown⟩ := loadScan_updated delivers before
  have isNew : ∀ other ∈ ([] : List ApRecord), other.ssid ≠ ap.ssid := by simp
  obtain ⟨listed, isListed, same⟩ := mem_scanListed member offers.visible isNew
  have named : Utf8.encode name = listed.ssid.bytes := by rw [same, offers.named]
  have printable : ∀ byte ∈ listed.ssid.bytes, 0x20 ≤ byte := by
    rw [same]
    exact offers.printable
  refine ⟨networks, by rw [scanned]; exact loaded, shownNetwork listed, ?_, ?_⟩
  · exact (shown _).mpr ⟨listed, isListed, rfl⟩
  · exact networkName_encoded named printable

theorem found (offers : Offers system ap name) :
    ∃ index found, findScannedAp system.device.scan ap.ssid = some index ∧
      system.device.scan.deref (some index) = some found ∧ found.ssid = ap.ssid := by
  obtain ⟨driver, before, delivers, scanned, member⟩ := offers.scanned
  apply findScannedAp_finds
  rw [scanned, updateScanCache_records delivers]
  exact member

/-- The request that the page posts, and what save_handler makes of it. -/
theorem submitted (offers : Offers system ap name) (passphrase : Passphrase password)
    (isOpen : Bool) :
    onSubmit name password isOpen = .post (submitBody name password isOpen) ∧
      receiveWhole (submitBody name password isOpen) = submitBody name password isOpen ∧
      saveHandler system.device.state (submitBody name password isOpen) =
        .connect ap.ssid passphrase.text isOpen := by
  have fits : ap.ssid.length ≤ 32 := ap.ssid_fits
  have long := passphrase.long
  have short := passphrase.short
  have length := passphrase.text_length
  refine ⟨?_, ?_, ?_⟩
  · have chosen : name ≠ [] := by
      rintro rfl
      exact offers.visible offers.named.symm
    rw [onSubmit, if_neg chosen, passphrase.jsLength_eq, if_neg (by omega), if_neg (by omega)]
  · have bound := submitBody_length offers.named passphrase.text_bytes.symm isOpen
    rw [receiveWhole, List.take_of_length_le]
    simp only [saveBodySize]
    omega
  · apply saveHandler_submitted (not_busy offers.unprovisioned) offers.named
      passphrase.text_bytes.symm offers.visible
    · simp only [saveFieldSize]
      omega
    · simp only [saveFieldSize]
      omega

/-- Everything up to the copy into the driver's configuration is exact; the copy keeps at most
31 bytes of the name. -/
theorem handsExactly_iff (offers : Offers system ap name) (passphrase : Passphrase password)
    (isOpen : Bool) : HandsExactly system ap.ssid name password isOpen ↔ ap.ssid.length ≤ 31 := by
  obtain ⟨posted, whole, handled⟩ := offers.submitted passphrase isOpen
  have lookup := exec_lookup offers.accepts offers.unprovisioned ap.ssid passphrase.text isOpen
  constructor
  · rintro ⟨body, given, word, lookedUp, index, found, configured, isPosted, _, isHandled,
      isLookedUp, pc, _, _, isConfigured, exactly, _⟩
    obtain rfl : body = submitBody name password isOpen := by
      rw [posted] at isPosted
      exact (Submit.post.inj isPosted).symm
    obtain ⟨rfl, rfl, _⟩ := SaveReply.connect.inj (handled.symm.trans isHandled)
    obtain ⟨reached, executed, config⟩ := exec_configure pc
    obtain rfl : reached = configured := Option.some.inj (executed.symm.trans isConfigured)
    rw [config, attemptConfig_ssid] at exactly
    rw [← exactly]
    exact CString.take_length_le 31 ap.ssid
  · intro short
    obtain ⟨index, found, pointer, slot, named⟩ := offers.found
    rw [pointer] at lookup
    let lookedUp : System :=
      { system with httpd := .connectStage ap.ssid passphrase.text isOpen (some index) }
    have pc : lookedUp.httpd = .connectStage ap.ssid passphrase.text isOpen (some index) := rfl
    obtain ⟨configured, executed, config⟩ := exec_configure pc
    have word : passphrase.text.length ≤ 63 := passphrase.text_length ▸ passphrase.short
    refine ⟨_, ap.ssid, passphrase.text, lookedUp, index, found, configured, posted, whole,
      handled, lookup, pc, slot, named, executed, ?_, ?_⟩
    · rw [config, attemptConfig_ssid, CString.take_of_length_le short]
    · rw [config, attemptConfig_password, CString.take_of_length_le word, passphrase.text_bytes]

end Offers

/-- The whole pipeline is the identity exactly for the names of up to 31 bytes. -/
theorem pipelineIdentity_iff {system : System} {ap : ApRecord} {name password : Text}
    (offers : Offers system ap name) (passphrase : Passphrase password) :
    PipelineIdentity system ap.ssid name password ↔ ap.ssid.length ≤ 31 := by
  constructor
  · intro identity
    exact (offers.handsExactly_iff passphrase true).mp (identity.handed true)
  · intro short
    refine ⟨offers.listsNetwork, ?_⟩
    intro isOpen
    exact (offers.handsExactly_iff passphrase isOpen).mpr short

/-! A device out of the box with one network in range -/

def inRange (ssid : CString) (fits : ssid.length ≤ 32) : ApRecord where
  ssid := ssid
  bssid := 0xA4CF12000001
  primary := 6
  rssi := -60
  authmode := wifiAuthWpa2Psk
  ssid_fits := fits

def portalScan (ap : ApRecord) : ScanDriver where
  apNum := 1
  allocates := true
  fetch := .ok
  records := [ap]
  records_le := le_refl 1

def portal (ap : ApRecord) : System :=
  { System.powerOn .erased with
    device := (Device.powerOn .erased).startAp (portalScan ap), main := .loop }

theorem exec_portal (ap : ApRecord) :
    Transition.exec step (System.powerOn .erased) [.init .ready, .boot .ok (portalScan ap)] =
      some (portal ap) := by
  have ready : initStep (System.powerOn .erased) .ready =
    { System.powerOn .erased with main := .boot } := rfl
  have first : step (System.powerOn .erased) (.init .ready) =
      some { System.powerOn .erased with main := .boot } := by
    rw [← ready]
    rfl
  have second : step { System.powerOn .erased with main := .boot } (.boot .ok (portalScan ap)) =
    some (portal ap) := rfl
  rw [Transition.exec, first]
  dsimp only
  rw [Transition.exec, second]
  rfl

theorem portal_offers {ap : ApRecord} {name : Text} (visible : ap.ssid.bytes ≠ [])
    (named : Utf8.encode name = ap.ssid.bytes) (printable : ∀ byte ∈ ap.ssid.bytes, 0x20 ≤ byte) :
    Offers (portal ap) ap name where
  accepts := rfl
  unprovisioned := Or.inl rfl
  scanned := ⟨portalScan ap, ScanCache.blank, ⟨(by decide : (1 : UInt16) ≠ 0), rfl, rfl⟩, rfl,
    List.mem_singleton_self ap⟩
  visible := visible
  named := named
  printable := printable

def bistro : Text := "Café \"24\"".toList
def bistroSsid : CString := CString.ofBuffer (Utf8.encode bistro)
def bistroAp : ApRecord := inRange bistroSsid (by decide +kernel)

def password : Text := ['a', '&', 'b', '=', 'c', '+', 'd', '%', ' ']

theorem password_passphrase : Passphrase password where
  long := by simp [password]
  short := by simp [password]
  printable := by simp [password]

theorem bistro_provisioned : PipelineIdentity (portal bistroAp) bistroSsid bistro password := by
  have offers : Offers (portal bistroAp) bistroAp bistro :=
    portal_offers (by decide +kernel) (by decide +kernel) (by decide +kernel)
  exact (pipelineIdentity_iff offers password_passphrase).mpr (by decide +kernel)

def longName : Text := List.replicate 32 'a'
def longSsid : CString := CString.ofBuffer (Utf8.encode longName)
def longAp : ApRecord := inRange longSsid (by decide +kernel)

/-- A name that fills the 32 bytes of the driver's field is offered by the page, but reaches
the driver without its last byte. -/
theorem long_name_truncated :
    Transition.exec step (System.powerOn .erased) [.init .ready, .boot .ok (portalScan longAp)] =
        some (portal longAp) ∧
      Offers (portal longAp) longAp longName ∧ Passphrase password ∧
      ListsNetwork (portal longAp) longName ∧
      ¬ PipelineIdentity (portal longAp) longSsid longName password := by
  have offers : Offers (portal longAp) longAp longName :=
    portal_offers (by decide +kernel) (by decide +kernel) (by decide +kernel)
  refine ⟨exec_portal longAp, offers, password_passphrase, offers.listsNetwork, ?_⟩
  intro identity
  have short := (offers.handsExactly_iff password_passphrase true).mp (identity.handed true)
  exact absurd short (by decide +kernel)

end HydroGovernor
