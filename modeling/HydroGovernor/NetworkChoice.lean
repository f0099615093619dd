import HydroGovernor.ScanListing

/-! Several access points of one name: the one whose strength and lock the setup page shows, and
the one that a connection attempt picks. -/

namespace HydroGovernor

open Firmware

/-! The lookup keeps the strongest -/

theorem considerAp_strongest {ssid : CString} {index : Nat} {ap : ApRecord}
    {best : Option (Nat × ApRecord)} {found : Nat × ApRecord}
    (result : considerAp ssid index ap best = some found) :
    (∀ before, best = some before → before.2.rssi.toInt ≤ found.2.rssi.toInt) ∧
      (ap.ssid = ssid → ap.rssi.toInt ≤ found.2.rssi.toInt) := by
  by_cases named : ap.ssid = ssid
  · cases best with
    | none =>
        simp only [considerAp, named, ne_eq, not_true_eq_false, if_false] at result
        cases result
        refine ⟨?_, fun _ => le_refl _⟩
        intro before seeded
        cases seeded
    | some before =>
        simp only [considerAp, named, ne_eq, not_true_eq_false, if_false] at result
        split at result
        · rename_i stronger
          cases result
          refine ⟨?_, fun _ => le_refl _⟩
          intro other same
          cases same
          exact Int.le_of_lt (Int8.lt_iff_toInt_lt.mp stronger)
        · rename_i weaker
          cases result
          have atMost : ap.rssi.toInt ≤ found.2.rssi.toInt :=
            not_lt.mp (fun less => weaker (Int8.lt_iff_toInt_lt.mpr less))
          refine ⟨?_, fun _ => atMost⟩
          intro other same
          cases same
          exact le_refl _
  · cases best with
    | none => simp [considerAp, named] at result
    | some before =>
        simp only [considerAp, named, ne_eq, not_false_eq_true, if_true] at result
        cases result
        refine ⟨?_, fun same => absurd same named⟩
        intro other same
        cases same
        exact le_refl _

theorem findScannedApFrom_strongest {ssid : CString} {records : List ApRecord} {start : Nat}
    {best : Option (Nat × ApRecord)} {found : Nat × ApRecord}
    (result : findScannedApFrom ssid records start best = some found) :
    (∀ before, best = some before → before.2.rssi.toInt ≤ found.2.rssi.toInt) ∧
      ∀ ap ∈ records, ap.ssid = ssid → ap.rssi.toInt ≤ found.2.rssi.toInt := by
  induction records generalizing start best with
  | nil =>
      rw [findScannedApFrom] at result
      subst result
      refine ⟨?_, List.forall_mem_nil _⟩
      intro before same
      cases same
      exact le_refl _
  | cons head rest ih =>
      rw [findScannedApFrom] at result
      obtain ⟨kept, later⟩ := ih result
      cases considered : considerAp ssid start head best with
      | none =>
          cases best with
          | none =>
              refine ⟨by simp, ?_⟩
              intro ap member named
              rcases List.mem_cons.mp member with rfl | inside
              · simp [considerAp, named] at considered
              · exact later ap inside named
          | some before =>
              simp only [considerAp] at considered
              split at considered
              · cases considered
              split at considered
              · cases considered
              · cases considered
      | some middle =>
          obtain ⟨seed, here⟩ := considerAp_strongest considered
          have bound := kept middle considered
          refine ⟨fun before same => le_trans (seed before same) bound, ?_⟩
          intro ap member named
          rcases List.mem_cons.mp member with rfl | inside
          · exact le_trans (here named) bound
          · exact later ap inside named

theorem findScannedApFrom_stays {ssid : CString} {records : List ApRecord} {start : Nat}
    {best : Nat × ApRecord}
    (weaker : ∀ ap ∈ records, ap.ssid = ssid → ap.rssi.toInt ≤ best.2.rssi.toInt) :
    findScannedApFrom ssid records start (some best) = some best := by
  induction records generalizing start with
  | nil => rfl
  | cons head rest ih =>
      have stays : considerAp ssid start head (some best) = some best := by
        rw [considerAp]
        split
        · rfl
        · rename_i named
          have bound := weaker head List.mem_cons_self (not_not.mp named)
          rw [if_neg]
          intro stronger
          have less := Int8.lt_iff_toInt_lt.mp stronger
          omega
      rw [findScannedApFrom, stays]
      exact ih (fun ap member => weaker ap (List.mem_cons_of_mem _ member))

theorem findScannedApFrom_first {ssid : CString} {records : List ApRecord} {ap : ApRecord}
    (first : records.find? (fun other => decide (other.ssid = ssid)) = some ap)
    (strongest : ∀ other ∈ records, other.ssid = ssid → other.rssi.toInt ≤ ap.rssi.toInt)
    (start : Nat) : ∃ index, findScannedApFrom ssid records start none = some (index, ap) := by
  induction records generalizing start with
  | nil => cases first
  | cons head rest ih =>
      have later := fun other member => strongest other (List.mem_cons_of_mem _ member)
      by_cases named : head.ssid = ssid
      · rw [List.find?_cons_of_pos (by simpa using named)] at first
        cases first
        refine ⟨start, ?_⟩
        rw [findScannedApFrom, considerAp, if_neg (not_not.mpr named)]
        exact findScannedApFrom_stays later
      · rw [List.find?_cons_of_neg (by simpa using named)] at first
        rw [findScannedApFrom, considerAp, if_pos named]
        exact ih first later (start + 1)

def LeadsTo (cache : ScanCache) (ssid : CString) (ap : ApRecord) : Prop :=
  ∃ index, findScannedAp cache ssid = some index ∧ cache.deref (some index) = some ap

theorem leadsTo_of_found {cache : ScanCache} {ssid : CString} {found : Nat × ApRecord}
    (result : findScannedApFrom ssid (cache.records.take cache.count) 0 none = some found) :
    LeadsTo cache ssid found.2 := by
  rcases findScannedApFrom_spec result with none | ⟨⟨_, stored⟩, _⟩
  · cases none
  · refine ⟨found.1, by rw [findScannedAp, result]; rfl, ?_⟩
    rw [Nat.sub_zero, List.getElem?_take] at stored
    split at stored
    · simpa [ScanCache.deref] using stored
    · cases stored

theorem leadsTo_strongest {cache : ScanCache} {ssid : CString} {ap : ApRecord}
    (leads : LeadsTo cache ssid ap) :
    ∀ other ∈ cache.records.take cache.count, other.ssid = ssid →
      other.rssi.toInt ≤ ap.rssi.toInt := by
  obtain ⟨index, pointer, slot⟩ := leads
  obtain ⟨found, result, rfl⟩ := Option.map_eq_some_iff.mp pointer
  obtain ⟨index', pointer', slot'⟩ := leadsTo_of_found result
  rw [findScannedAp, result] at pointer'
  cases pointer'
  have same : found.2 = ap := Option.some.inj (slot'.symm.trans slot)
  rw [← same]
  exact (findScannedApFrom_strongest result).2

/-! The list and the lookup -/

/-- The attempt on the shown network picks an access point of that name, none of which is
stronger, with the strength and the lock that are shown. -/
def ShowsJoined (cache : ScanCache) (network : Network) : Prop :=
  ∃ ssid ap, byteReading.text ssid.bytes = network.ssid ∧ LeadsTo cache ssid ap ∧
    ap.ssid = ssid ∧
    (∀ other ∈ cache.records.take cache.count, other.ssid = ssid →
      other.rssi.toInt ≤ ap.rssi.toInt) ∧
    network.rssi = ap.rssi.toInt ∧ network.isOpen = decide (ap.authmode = wifiAuthOpen)

/-- s_scan_json is an array of objects that each show the access point an attempt picks. -/
def ListsJoined (cache : ScanCache) : Prop :=
  ∃ elements, Json.read (byteReading.text cache.json) = some (.array elements) ∧
    ∀ element ∈ elements, ∃ network, networkOf element = some network ∧
      ShowsJoined cache network

/-- No record is stronger than the first of its name. -/
def FirstIsStrongest (records : List ApRecord) : Prop :=
  ∀ other ∈ records, other.ssid.bytes ≠ [] →
    ∀ ap, records.find? (fun record => decide (record.ssid = other.ssid)) = some ap →
      other.rssi.toInt ≤ ap.rssi.toInt

def byteNetwork (ap : ApRecord) : Network :=
  ⟨byteReading.name ap, ap.rssi.toInt, decide (ap.authmode = wifiAuthOpen)⟩

theorem byteName_printable {ap : ApRecord} (printable : ∀ byte ∈ ap.ssid.bytes, 0x20 ≤ byte) :
    byteReading.name ap = byteReading.text ap.ssid.bytes := by
  have kept : ap.ssid.bytes.filter (fun byte => decide (0x20 ≤ byte)) = ap.ssid.bytes := by
    apply List.filter_eq_self.mpr
    intro byte member
    exact decide_eq_true (printable byte member)
  rw [Reading.name, kept]

theorem byteText_injective {left right : Bytes}
    (same : byteReading.text left = byteReading.text right) : left = right := by
  apply List.map_injective_iff.mpr _ same
  intro first second equal
  apply UInt8.toNat_inj.mp
  rw [← byteChar_toNat first, ← byteChar_toNat second, equal]

theorem shows_listed_iff {cache : ScanCache} {ap : ApRecord}
    (first : (cache.records.take cache.count).find? (fun record => decide (record.ssid = ap.ssid)) =
      some ap)
    (printable : ∀ byte ∈ ap.ssid.bytes, 0x20 ≤ byte) :
    ShowsJoined cache (byteNetwork ap) ↔
      ∀ other ∈ cache.records.take cache.count, other.ssid = ap.ssid →
        other.rssi.toInt ≤ ap.rssi.toInt := by
  have text : (byteNetwork ap).ssid = byteReading.text ap.ssid.bytes := byteName_printable printable
  constructor
  · rintro ⟨ssid, found, spelled, leads, _, _, strength, _⟩
    have same : ssid = ap.ssid := CString.ext (byteText_injective (spelled.trans text))
    intro other member named
    have bound := leadsTo_strongest leads other member (named.trans same.symm)
    have shown : ap.rssi.toInt = found.rssi.toInt := strength
    omega
  · intro strongest
    obtain ⟨index, result⟩ := findScannedApFrom_first first strongest 0
    exact ⟨ap.ssid, ap, text.symm, leadsTo_of_found result, rfl, strongest, rfl, rfl⟩

theorem updateScanCache_counted {driver : ScanDriver} (cache : ScanCache)
    (succeeds : driver.apNum ≠ 0 → driver.allocates = true ∧ driver.fetch = .ok) :
    (updateScanCache driver cache).records.take (updateScanCache driver cache).count =
      driver.records := by
  by_cases nothing : driver.apNum = 0
  · rw [(updateScanCache_nothing nothing cache).1, updateScanCache, if_pos nothing]
    rfl
  · obtain ⟨allocates, fetches⟩ := succeeds nothing
    exact updateScanCache_records ⟨nothing, allocates, fetches⟩ cache

/-- The setup page shows the access points that attempts pick exactly when the driver lists a
strongest one of each name first. -/
theorem lists_joined_iff (driver : ScanDriver) (cache : ScanCache)
    (succeeds : driver.apNum ≠ 0 → driver.allocates = true ∧ driver.fetch = .ok)
    (printable : ∀ ap ∈ driver.records, ∀ byte ∈ ap.ssid.bytes, 0x20 ≤ byte) :
    ListsJoined (updateScanCache driver cache) ↔ FirstIsStrongest driver.records := by
  obtain ⟨listed, lists, read, _⟩ := updateScanCache_listed driver cache succeeds
  have counted := updateScanCache_counted cache succeeds
  have shows_iff : ∀ ap ∈ listed, ShowsJoined (updateScanCache driver cache) (byteNetwork ap) ↔
      ∀ other ∈ driver.records, other.ssid = ap.ssid → other.rssi.toInt ≤ ap.rssi.toInt := by
    intro ap member
    have first := lists.first ap member
    have stored := lists.inOrder.subset member
    rw [← counted] at first ⊢
    exact shows_listed_iff first (printable ap stored)
  constructor
  · rintro ⟨elements, read', each⟩ other member visible ap first
    rw [read] at read'
    cases read'
    obtain ⟨shown, present, named⟩ := List.mem_map.mp (lists.complete other member visible)
    have firstShown := lists.first shown present
    rw [named, first] at firstShown
    cases firstShown
    obtain ⟨network, is, joined⟩ := each _ (List.mem_map_of_mem present)
    have network_eq : networkOf (byteReading.value ap) = some (byteNetwork ap) := rfl
    rw [network_eq] at is
    cases is
    exact (shows_iff ap present).mp joined other member named.symm
  · intro strongest
    refine ⟨_, read, ?_⟩
    intro element member
    obtain ⟨ap, present, rfl⟩ := List.mem_map.mp member
    refine ⟨byteNetwork ap, rfl, (shows_iff ap present).mpr ?_⟩
    intro other stored named
    have visible : other.ssid.bytes ≠ [] := by
      rw [named]
      exact lists.visible ap present
    apply strongest other stored visible ap
    rw [named]
    exact lists.first ap present

theorem terrace_shown_joined :
    ListsJoined (updateScanCache terraceTwice ScanCache.blank) := by
  apply (lists_joined_iff terraceTwice ScanCache.blank (fun _ => ⟨rfl, rfl⟩)
    (by decide +kernel)).mpr
  unfold FirstIsStrongest
  decide +kernel

def weakTerraceFirst : ScanDriver where
  apNum := 2
  allocates := true
  fetch := .ok
  records := [{ terrace with bssid := 0x020000000002, rssi := -74 },
    { terrace with authmode := wifiAuthWpa2Psk }]
  records_le := by decide

theorem weaker_network_shown :
    ¬ ∀ driver cache, (driver.apNum ≠ 0 → driver.allocates = true ∧ driver.fetch = .ok) →
      (∀ ap ∈ driver.records, ∀ byte ∈ ap.ssid.bytes, 0x20 ≤ byte) →
      ListsJoined (updateScanCache driver cache) := by
  intro every
  have printable : ∀ ap ∈ weakTerraceFirst.records, ∀ byte ∈ ap.ssid.bytes, 0x20 ≤ byte := by
    decide +kernel
  have lists := every weakTerraceFirst ScanCache.blank (fun _ => ⟨rfl, rfl⟩) printable
  obtain ⟨elements, read, each⟩ := lists
  have shown :
      Json.read (byteReading.text (updateScanCache weakTerraceFirst ScanCache.blank).json) =
        some (.array ([weakTerraceFirst.records.head (by decide)].map byteReading.value)) :=
    byteReading.scanJson ⟨by decide, rfl, rfl⟩ ScanCache.blank
  rw [shown] at read
  cases read
  obtain ⟨network, is, ssid, ap, spelled, leads, named, strongest, strength, _⟩ :=
    each _ List.mem_cons_self
  cases is
  have bound := strongest { terrace with authmode := wifiAuthWpa2Psk } (by decide)
    (CString.ext (byteText_injective spelled)).symm
  rw [← strength] at bound
  revert bound
  decide

end HydroGovernor
