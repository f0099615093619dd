import HydroGovernor.Nvs

/-! The scan cache of wifi_manager.c: the record array, the JSON text served to the setup
page, and the lookup that a connection attempt starts with. -/

namespace HydroGovernor

open Firmware

/-- The fields of `wifi_ap_record_t` that the firmware reads. The driver terminates the
33-byte name field. -/
structure ApRecord where
  ssid : CString
  bssid : Bssid
  primary : UInt8
  rssi : Int8
  authmode : AuthMode
  ssid_fits : ssid.length ≤ 32
  deriving DecidableEq, Repr

def scanCapacity : Nat := 20
def scanJsonSize : Nat := 2048
def ssidJsonSize : Nat := 96

/-- What the driver and the allocator answer during one update_scan_cache. -/
structure ScanDriver where
  apNum : UInt16
  allocates : Bool
  fetch : EspErr
  records : List ApRecord
  records_le : records.length ≤ min apNum.toNat scanCapacity
  deriving DecidableEq, Repr

/-- `records` are the slots of s_scan_records written so far; the first `count` belong to
the last scan. `json` is s_scan_json up to its terminator. -/
structure ScanCache where
  records : List ApRecord
  count : Nat
  json : Bytes
  deriving DecidableEq, Repr

def emptyJson : Bytes := ascii "[]"

def ScanCache.blank : ScanCache := ⟨[], 0, emptyJson⟩

/-- The body of the loop of find_scanned_ap: the pointer moves to the record at `index` when
the record carries the name and is the first such one or stronger than the best so far. -/
def considerAp (ssid : CString) (index : Nat) (ap : ApRecord) :
    Option (Nat × ApRecord) → Option (Nat × ApRecord)
  | none => if ap.ssid ≠ ssid then none else some (index, ap)
  | some best =>
      if ap.ssid ≠ ssid then some best
      else if best.2.rssi < ap.rssi then some (index, ap) else some best

def findScannedApFrom (ssid : CString) :
    List ApRecord → Nat → Option (Nat × ApRecord) → Option (Nat × ApRecord)
  | [], _, best => best
  | ap :: rest, index, best =>
      findScannedApFrom ssid rest (index + 1) (considerAp ssid index ap best)

def findScannedAp (cache : ScanCache) (ssid : CString) : Option Nat :=
  (findScannedApFrom ssid (cache.records.take cache.count) 0 none).map Prod.fst

/-- Reading through the pointer: what the slot holds at that moment. -/
def ScanCache.deref (cache : ScanCache) (pointer : Option Nat) : Option ApRecord :=
  pointer.bind (fun index => cache.records[index]?)

/-- The copy into ssid_json, which stops three bytes before the end of the buffer. -/
def escapeSsid : Bytes → Bytes → Bytes
  | [], out => out
  | ch :: rest, out =>
      if out.length < ssidJsonSize - 3 then
        if ch = 0x5C ∨ ch = 0x22 then escapeSsid rest (out ++ [0x5C, ch])
        else if 0x20 ≤ ch then escapeSsid rest (out ++ [ch])
        else escapeSsid rest out
      else out

def decimal (value : Int8) : Bytes :=
  if value.toInt < 0 then 0x2D :: ascii (Nat.repr value.toInt.natAbs)
  else ascii (Nat.repr value.toInt.natAbs)

def scanEntry (ap : ApRecord) : Bytes :=
  ascii "\x7b\"ssid\":\"" ++ escapeSsid ap.ssid.bytes [] ++ ascii "\",\"rssi\":" ++
    decimal ap.rssi ++ ascii ",\"open\":" ++
    (if ap.authmode = wifiAuthOpen then ascii "true" else ascii "false") ++ ascii "\x7d"

/-- The loop that appends one object for each new name. `earlier` are the records before
the current one, which the inner loop searches for duplicates. -/
def scanJsonLoop (earlier : List ApRecord) :
    List ApRecord → Bool → TextBuffer → TextBuffer
  | [], _, buffer => buffer
  | ap :: rest, first, buffer =>
      if buffer.pos < scanJsonSize - 96 then
        if ap.ssid.bytes = [] then scanJsonLoop (earlier ++ [ap]) rest first buffer
        else if earlier.any (fun other => decide (other.ssid = ap.ssid)) then
          scanJsonLoop (earlier ++ [ap]) rest first buffer
        else
          let separated := if first then buffer
            else TextBuffer.append scanJsonSize buffer (ascii ",")
          scanJsonLoop (earlier ++ [ap]) rest false
            (TextBuffer.append scanJsonSize separated (scanEntry ap))
      else buffer

def scanJsonOpened : TextBuffer := TextBuffer.append scanJsonSize TextBuffer.blank (ascii "[")

/-- The buffer after the last snprintf, for the records that were fetched. -/
def scanJsonBuffer (aps : List ApRecord) : TextBuffer :=
  TextBuffer.append scanJsonSize (scanJsonLoop [] aps true scanJsonOpened) (ascii "]")

def updateScanCache (driver : ScanDriver) (cache : ScanCache) : ScanCache :=
  if driver.apNum = 0 then { cache with count := 0, json := emptyJson }
  else if driver.allocates = false then { cache with json := emptyJson }
  else if driver.fetch ≠ .ok then { cache with count := 0, json := emptyJson }
  else
    { records := driver.records ++ cache.records.drop driver.records.length
      count := driver.records.length
      json := (scanJsonBuffer driver.records).text }

/-- A slot that the lookup loop may return. -/
structure FoundFrom (ssid : CString) (records : List ApRecord) (start : Nat)
    (found : Nat × ApRecord) : Prop where
  slot : start ≤ found.1 ∧ records[found.1 - start]? = some found.2
  named : found.2.ssid = ssid

theorem FoundFrom.shift {ssid : CString} {records : List ApRecord} {start : Nat}
    {found : Nat × ApRecord} (ap : ApRecord) (later : FoundFrom ssid records (start + 1) found) :
    FoundFrom ssid (ap :: records) start found := by
  obtain ⟨⟨above, stored⟩, named⟩ := later
  refine ⟨⟨by omega, ?_⟩, named⟩
  have index : found.1 - start = (found.1 - (start + 1)) + 1 := by omega
  rw [index, List.getElem?_cons_succ]
  exact stored

theorem considerAp_spec {ssid : CString} {index : Nat} {ap : ApRecord}
    {best : Option (Nat × ApRecord)} {found : Nat × ApRecord}
    (result : considerAp ssid index ap best = some found) :
    best = some found ∨ (found = (index, ap) ∧ ap.ssid = ssid) := by
  by_cases named : ap.ssid = ssid
  · cases best with
    | none =>
        simp only [considerAp, named, ne_eq, not_true_eq_false, if_false] at result
        exact Or.inr ⟨(Option.some.inj result).symm, named⟩
    | some strongest =>
        simp only [considerAp, named, ne_eq, not_true_eq_false, if_false] at result
        split at result
        · exact Or.inr ⟨(Option.some.inj result).symm, named⟩
        · exact Or.inl result
  · cases best with
    | none => simp [considerAp, named] at result
    | some strongest => exact Or.inl (by simpa [considerAp, named] using result)

theorem findScannedApFrom_spec {ssid : CString} {records : List ApRecord} {start : Nat}
    {best : Option (Nat × ApRecord)} {found : Nat × ApRecord}
    (result : findScannedApFrom ssid records start best = some found) :
    best = some found ∨ FoundFrom ssid records start found := by
  induction records generalizing start best with
  | nil => exact Or.inl result
  | cons ap rest ih =>
      rcases ih result with kept | later
      · rcases considerAp_spec kept with before | ⟨rfl, named⟩
        · exact Or.inl before
        · exact Or.inr ⟨⟨Nat.le_refl _, by simp⟩, named⟩
      · exact Or.inr (later.shift ap)

theorem findScannedAp_deref {cache : ScanCache} {ssid : CString} {index : Nat}
    (found : findScannedAp cache ssid = some index) :
    ∃ ap, cache.deref (some index) = some ap ∧ ap.ssid = ssid := by
  obtain ⟨⟨slot, ap⟩, result, rfl⟩ := Option.map_eq_some_iff.mp found
  rcases findScannedApFrom_spec result with none | ⟨⟨_, stored⟩, named⟩
  · cases none
  · refine ⟨ap, ?_, named⟩
    rw [Nat.sub_zero, List.getElem?_take] at stored
    split at stored
    · simpa [ScanCache.deref] using stored
    · cases stored

theorem findScannedApFrom_keeps {ssid : CString} {records : List ApRecord} {start : Nat}
    {best : Option (Nat × ApRecord)} (some_best : best.isSome = true) :
    (findScannedApFrom ssid records start best).isSome = true := by
  induction records generalizing start best with
  | nil => exact some_best
  | cons ap rest ih =>
      obtain ⟨strongest, rfl⟩ := Option.isSome_iff_exists.mp some_best
      rw [findScannedApFrom]
      apply ih
      rw [considerAp]
      split
      · rfl
      split
      · rfl
      · rfl

theorem findScannedApFrom_finds {ssid : CString} {records : List ApRecord} {ap : ApRecord}
    (member : ap ∈ records) (named : ap.ssid = ssid) (start : Nat)
    (best : Option (Nat × ApRecord)) :
    (findScannedApFrom ssid records start best).isSome = true := by
  induction records generalizing start best with
  | nil => cases member
  | cons head rest ih =>
      rcases List.mem_cons.mp member with rfl | later
      · rw [findScannedApFrom]
        apply findScannedApFrom_keeps
        have same : ¬ ap.ssid ≠ ssid := not_not.mpr named
        cases best with
        | none => rw [considerAp, if_neg same, Option.isSome_some]
        | some strongest =>
            rw [considerAp, if_neg same]
            split
            · rfl
            · rfl
      · exact ih later (start + 1) (considerAp ssid start head best)

theorem findScannedAp_finds {cache : ScanCache} {ap : ApRecord}
    (member : ap ∈ cache.records.take cache.count) :
    ∃ index found, findScannedAp cache ap.ssid = some index ∧
      cache.deref (some index) = some found ∧ found.ssid = ap.ssid := by
  have finds := findScannedApFrom_finds member rfl 0 none
  obtain ⟨best, result⟩ := Option.isSome_iff_exists.mp finds
  have pointer : findScannedAp cache ap.ssid = some best.1 := by
    rw [findScannedAp, result]
    rfl
  obtain ⟨found, slot, named⟩ := findScannedAp_deref pointer
  exact ⟨best.1, found, pointer, slot, named⟩

end HydroGovernor
