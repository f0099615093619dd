import HydroGovernor.Library.Html
import HydroGovernor.ScanListing

/-! The list of networks on the setup page: the markup that loadScan of page_setup.html builds, what
a browser makes of it, and what selectNet reads back. -/

namespace HydroGovernor

open Firmware
open Firmware.Html (Element)
open Firmware.Utf8 (Text)

/-! loadScan -/

/-- `text.replace(/char/g, by)`. -/
def replaceAll (char : Char) (new : String) (text : Text) : Text :=
  text.flatMap (fun found => if found = char then new.toList else [found])

def enc (s : Text) : Text :=
  replaceAll '"' "&quot;" (replaceAll '>' "&gt;" (replaceAll '<' "&lt;" (replaceAll '&' "&amp;" s)))

def fullBlock : Char := Char.ofNat 0x2588
def lightShade : Char := Char.ofNat 0x2591
def padlock : Char := Char.ofNat 0x1F512

def bars (r : Int) : Text :=
  if -50 ≤ r then [fullBlock, fullBlock, fullBlock, fullBlock]
  else if -65 ≤ r then [fullBlock, fullBlock, fullBlock, lightShade]
  else if -75 ≤ r then [fullBlock, fullBlock, lightShade, lightShade]
  else [fullBlock, lightShade, lightShade, lightShade]

def openMark (isOpen : Bool) : Text := if isOpen then "  [OPEN]".toList else [' ', ' ', padlock]

def openWord (isOpen : Bool) : Text := if isOpen then "true".toList else "false".toList

def itemMarkup (n : Network) : Text :=
  "<div class=\"net-item\" data-ssid=\"".toList ++ enc n.ssid ++ "\" data-open=\"".toList ++
    openWord n.isOpen ++ "\" onclick=\"selectNet(this)\">".toList ++
    (bars n.rssi ++ "  ".toList ++ enc n.ssid ++ openMark n.isOpen) ++ "</div>".toList

/-- The innerHTML of the list. -/
def listMarkup (networks : List Network) : Text :=
  if networks = [] then
    "<div class=\"net-empty\">No networks found ".toList ++ [Char.ofNat 0x2014] ++
      " tap ".toList ++ [Char.ofNat 0x21BB] ++ " to rescan</div>".toList
  else networks.flatMap itemMarkup

/-! selectNet -/

/-- `_selSSID` and `_selOpen` after a tap on the element. -/
def selectNet (el : Element) : Option Text × Bool :=
  (el.getAttribute "data-ssid".toList, el.getAttribute "data-open".toList == some "true".toList)

/-! What the markup stands for -/

theorem replaceAll_append (char : Char) (new : String) (front back : Text) :
    replaceAll char new (front ++ back) = replaceAll char new front ++ replaceAll char new back :=
  List.flatMap_append

theorem enc_append (front back : Text) : enc (front ++ back) = enc front ++ enc back := by
  simp only [enc, replaceAll_append]

theorem enc_single (char : Char) : enc [char] = Html.escapeChar char := by
  unfold Html.escapeChar
  split
  · rename_i is
    rw [is]
    decide
  split
  · rename_i is
    rw [is]
    decide
  split
  · rename_i is
    rw [is]
    decide
  split
  · rename_i is
    rw [is]
    decide
  · rename_i notAmp notLt notGt notQuote
    simp [enc, replaceAll, notAmp, notLt, notGt, notQuote]

theorem enc_eq (s : Text) : enc s = Html.escape s := by
  induction s with
  | nil => rfl
  | cons char s ih =>
      rw [← List.singleton_append, enc_append, enc_single, ih]
      rfl

def itemElement (n : Network) : Element where
  name := "div".toList
  attributes := [("class".toList, "net-item".toList), ("data-ssid".toList, n.ssid),
    ("data-open".toList, openWord n.isOpen), ("onclick".toList, "selectNet(this)".toList)]
  content := bars n.rssi ++ "  ".toList ++ n.ssid ++ openMark n.isOpen

theorem escape_append (front back : Text) :
    Html.escape (front ++ back) = Html.escape front ++ Html.escape back :=
  List.flatMap_append

theorem escape_bars (r : Int) : Html.escape (bars r) = bars r := by
  unfold bars
  repeat' split
  all_goals decide

theorem escape_openMark (isOpen : Bool) : Html.escape (openMark isOpen) = openMark isOpen := by
  cases isOpen <;> decide

theorem escape_openWord (isOpen : Bool) : Html.escape (openWord isOpen) = openWord isOpen := by
  cases isOpen <;> decide

theorem itemMarkup_eq (n : Network) : itemMarkup n = Html.render (itemElement n) := by
  have blank : Html.escape "  ".toList = "  ".toList := by decide
  have item : Html.escape "net-item".toList = "net-item".toList := by decide
  have call : Html.escape "selectNet(this)".toList = "selectNet(this)".toList := by decide
  unfold itemMarkup itemElement Html.render
  simp only [enc_eq, List.flatMap_cons, List.flatMap_nil, Html.renderAttribute, escape_append,
    escape_bars, escape_openMark, escape_openWord, blank, item, call, Html.endTag]
  simp

theorem plain_bars (r : Int) : (bars r).all Html.plainChar = true := by
  unfold bars
  repeat' split
  all_goals decide

theorem itemNames_clean : ∀ name ∈ ["class".toList, "data-ssid".toList, "data-open".toList,
    "onclick".toList], name ≠ [] ∧ name.all Html.nameChar = true := by
  decide

theorem itemElement_clean {n : Network} (plain : n.ssid.all Html.plainChar = true) :
    (itemElement n).Clean where
  name := List.mem_cons_self
  names := by
    intro pair member
    apply itemNames_clean
    exact List.mem_map_of_mem member
  values := by
    intro pair member
    simp only [itemElement, List.mem_cons, List.not_mem_nil, or_false] at member
    rcases member with rfl | rfl | rfl | rfl
    · decide
    · exact plain
    · cases n.isOpen <;> decide
    · decide
  content := by
    have mark : (openMark n.isOpen).all Html.plainChar = true := by
      cases n.isOpen <;> decide
    simp only [itemElement, List.all_append, plain_bars, plain, mark, Bool.and_true, Bool.true_and]
    decide

theorem selectNet_item (n : Network) : selectNet (itemElement n) = (some n.ssid, n.isOpen) := by
  obtain ⟨ssid, rssi, isOpen⟩ := n
  cases isOpen <;> rfl

def emptyElement : Element where
  name := "div".toList
  attributes := [("class".toList, "net-empty".toList)]
  content := "No networks found ".toList ++ [Char.ofNat 0x2014] ++ " tap ".toList ++
    [Char.ofNat 0x21BB] ++ " to rescan".toList

def listElements (networks : List Network) : List Element :=
  if networks = [] then [emptyElement] else networks.map itemElement

theorem emptyElement_clean : emptyElement.Clean where
  name := List.mem_cons_self
  names := by
    intro pair member
    rw [List.mem_singleton.mp member]
    exact itemNames_clean _ List.mem_cons_self
  values := by
    intro pair member
    rw [List.mem_singleton.mp member]
    decide
  content := by decide

theorem listMarkup_read (references : Html.References) {networks : List Network}
    (plain : ∀ n ∈ networks, n.ssid.all Html.plainChar = true) :
    Html.readFragment references (listMarkup networks) = some (listElements networks) := by
  have clean : ∀ element ∈ listElements networks, element.Clean := by
    unfold listElements
    split
    · intro element member
      rw [List.mem_singleton.mp member]
      exact emptyElement_clean
    · intro element member
      obtain ⟨n, inside, rfl⟩ := List.mem_map.mp member
      exact itemElement_clean (plain n inside)
  have written : listMarkup networks = (listElements networks).flatMap Html.render := by
    unfold listMarkup listElements
    split
    · simp [Html.render, emptyElement, Html.renderAttribute, Html.escape, Html.escapeChar,
        Html.endTag]
    · rw [List.flatMap_map]
      exact List.flatMap_congr (fun n _ => itemMarkup_eq n)
  rw [written]
  exact Html.readFragment_render references clean

/-! From the scan to the selection -/

theorem decodeFrom_plain (decoder : Utf8.Decoder) {bytes : Bytes}
    (printable : ∀ byte ∈ bytes, 0x20 ≤ byte) :
    (Utf8.decodeFrom decoder bytes).all Html.plainChar = true := by
  induction bytes generalizing decoder with
  | nil =>
      cases decoder with
      | start => rfl
      | owed more codePoint lower upper completes =>
          rw [Utf8.decodeFrom]
          decide
  | cons byte bytes ih =>
      have later := ih (Utf8.next decoder byte.toNat).2
        (fun other member => printable other (List.mem_cons_of_mem _ member))
      have least : 0x20 ≤ byte.toNat :=
        UInt8.le_iff_toNat_le.mp (printable byte List.mem_cons_self)
      rw [Utf8.decodeFrom_cons, List.all_append, later, Bool.and_true, List.all_eq_true]
      intro char member
      apply decide_eq_true
      rcases Utf8.next_chars decoder byte.toNat char member with same | wide
      · omega
      · omega

theorem networkName_plain (ap : ApRecord) : (networkName ap).all Html.plainChar = true := by
  apply decodeFrom_plain
  intro byte member
  exact of_decide_eq_true (List.mem_filter.mp member).2

/-- What a tap on the item of this record selects. -/
def selectionOf (ap : ApRecord) : Option Text × Bool :=
  (some (networkName ap), decide (ap.authmode = wifiAuthOpen))

/-- The setup page offers one item for each listed record, whatever bytes the networks have for
names, and a tap on it selects the name and the lock of that record. -/
theorem page_offers_records (references : Html.References) (driver : ScanDriver)
    (delivers : driver.Delivers) (cache : ScanCache)
    (listed : scanListed [] driver.records ≠ []) :
    ∃ networks elements, loadScan (updateScanCache driver cache).json = some networks ∧
      Html.readFragment references (listMarkup networks) = some elements ∧
      (elements.map selectNet).Perm ((scanListed [] driver.records).map selectionOf) ∧
      ∀ element ∈ elements, element.attributes.map Prod.fst =
          ["class".toList, "data-ssid".toList, "data-open".toList, "onclick".toList] ∧
        element.getAttribute "onclick".toList = some "selectNet(this)".toList := by
  have loaded : loadScan (updateScanCache driver cache).json =
      some (((scanListed [] driver.records).map shownNetwork).mergeSort
        (fun left right => decide (right.rssi ≤ left.rssi))) := by
    rw [loadScan, scanJson_read delivers]
    dsimp only
    rw [mapM_networkOf]
    rfl
  generalize sorted : ((scanListed [] driver.records).map shownNetwork).mergeSort
    (fun left right => decide (right.rssi ≤ left.rssi)) = networks at loaded
  have permuted : networks.Perm ((scanListed [] driver.records).map shownNetwork) :=
    sorted ▸ List.mergeSort_perm _ _
  have plain : ∀ n ∈ networks, n.ssid.all Html.plainChar = true := by
    intro n member
    obtain ⟨ap, -, rfl⟩ := List.mem_map.mp (permuted.mem_iff.mp member)
    exact networkName_plain ap
  have some_network : networks ≠ [] := by
    rintro rfl
    exact listed (List.map_eq_nil_iff.mp permuted.nil_eq.symm)
  have elements : listElements networks = networks.map itemElement := if_neg some_network
  refine ⟨networks, networks.map itemElement, loaded, elements ▸ listMarkup_read references plain,
    ?_, ?_⟩
  · have selected : (networks.map itemElement).map selectNet =
        networks.map (fun n => (some n.ssid, n.isOpen)) := by
      rw [List.map_map]
      exact List.map_congr_left (fun n _ => selectNet_item n)
    have shown : ((scanListed [] driver.records).map shownNetwork).map
        (fun n => (some n.ssid, n.isOpen)) = (scanListed [] driver.records).map selectionOf := by
      rw [List.map_map]
      rfl
    rw [selected, ← shown]
    exact permuted.map _
  · intro element member
    obtain ⟨n, -, rfl⟩ := List.mem_map.mp member
    exact ⟨rfl, rfl⟩

def hostile : ApRecord :=
  { terrace with ssid := ⟨ascii "\"><b onclick='x'>&lt;", by decide⟩, ssid_fits := by decide }

def hostileScan : ScanDriver where
  apNum := 2
  allocates := true
  fetch := .ok
  records := [terrace, hostile]
  records_le := by decide

theorem hostile_offered :
    ∃ networks elements, loadScan (updateScanCache hostileScan ScanCache.blank).json =
        some networks ∧
      Html.readFragment Html.References.basic (listMarkup networks) = some elements ∧
      (elements.map selectNet).Perm ((scanListed [] hostileScan.records).map selectionOf) ∧
      ∀ element ∈ elements, element.attributes.map Prod.fst =
          ["class".toList, "data-ssid".toList, "data-open".toList, "onclick".toList] ∧
        element.getAttribute "onclick".toList = some "selectNet(this)".toList :=
  page_offers_records Html.References.basic hostileScan ⟨by decide, rfl, rfl⟩ ScanCache.blank
    (by decide +kernel)

end HydroGovernor
