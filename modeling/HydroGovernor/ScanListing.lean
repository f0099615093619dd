import HydroGovernor.Library.Json
import HydroGovernor.ScanCache

/-! The list of networks on its way to the setup page: the JSON text of update_scan_cache, and
what loadScan of page_setup.html reads out of it. -/

namespace HydroGovernor

open Firmware
open Firmware.Utf8 (Text)

/-! What is listed -/

/-- The records that the loop of update_scan_cache has to write an object for: the first of
each name that is not hidden. -/
def scanListed (earlier : List ApRecord) : List ApRecord → List ApRecord
  | [] => []
  | ap :: rest =>
      if ap.ssid.bytes = [] then scanListed (earlier ++ [ap]) rest
      else if earlier.any (fun other => decide (other.ssid = ap.ssid)) then
        scanListed (earlier ++ [ap]) rest
      else ap :: scanListed (earlier ++ [ap]) rest

/-- The driver handed records over. -/
structure ScanDriver.Delivers (driver : ScanDriver) : Prop where
  some_found : driver.apNum ≠ 0
  allocates : driver.allocates = true
  fetched : driver.fetch = .ok

theorem ScanDriver.Delivers.updated {driver : ScanDriver} (delivers : driver.Delivers)
    (cache : ScanCache) :
    updateScanCache driver cache =
      { records := driver.records ++ cache.records.drop driver.records.length
        count := driver.records.length
        json := (scanJsonBuffer driver.records).text } := by
  have allocated : ¬ driver.allocates = false := by simp [delivers.allocates]
  have fetched : ¬ driver.fetch ≠ .ok := by simp [delivers.fetched]
  rw [updateScanCache, if_neg delivers.some_found, if_neg allocated, if_neg fetched]

theorem mem_scanListed {earlier records : List ApRecord} {ap : ApRecord} (member : ap ∈ records)
    (visible : ap.ssid.bytes ≠ []) (isNew : ∀ other ∈ earlier, other.ssid ≠ ap.ssid) :
    ∃ listed ∈ scanListed earlier records, listed.ssid = ap.ssid := by
  induction records generalizing earlier with
  | nil => cases member
  | cons head rest ih =>
      by_cases same : head.ssid = ap.ssid
      · have visibleHead : head.ssid.bytes ≠ [] := same ▸ visible
        have notEarlier : ¬ earlier.any (fun other => decide (other.ssid = head.ssid)) = true := by
          intro duplicate
          obtain ⟨other, before, equal⟩ := List.any_eq_true.mp duplicate
          exact isNew other before ((of_decide_eq_true equal).trans same)
        refine ⟨head, ?_, same⟩
        rw [scanListed, if_neg visibleHead, if_neg notEarlier]
        exact List.mem_cons_self
      · have later : ap ∈ rest := by
          rcases List.mem_cons.mp member with rfl | later
          · exact absurd rfl same
          · exact later
        have stillNew : ∀ other ∈ earlier ++ [head], other.ssid ≠ ap.ssid := by
          intro other before
          rcases List.mem_append.mp before with old | last
          · exact isNew other old
          · rw [List.mem_singleton.mp last]
            exact same
        obtain ⟨listed, found, named⟩ := ih later stillNew
        refine ⟨listed, ?_, named⟩
        rw [scanListed]
        split
        · exact found
        split
        · exact found
        · exact List.mem_cons_of_mem _ found

theorem scanListed_cons (earlier : List ApRecord) (ap : ApRecord) (rest : List ApRecord) :
    (scanListed earlier (ap :: rest) = scanListed (earlier ++ [ap]) rest ∧
        (ap.ssid.bytes = [] ∨ ∃ other ∈ earlier, other.ssid = ap.ssid)) ∨
      (scanListed earlier (ap :: rest) = ap :: scanListed (earlier ++ [ap]) rest ∧
        ap.ssid.bytes ≠ [] ∧ ∀ other ∈ earlier, other.ssid ≠ ap.ssid) := by
  rw [scanListed]
  split
  · rename_i hidden
    exact Or.inl ⟨rfl, Or.inl hidden⟩
  split
  · rename_i duplicate
    obtain ⟨other, before, same⟩ := List.any_eq_true.mp duplicate
    exact Or.inl ⟨rfl, Or.inr ⟨other, before, of_decide_eq_true same⟩⟩
  · rename_i visible isNew
    refine Or.inr ⟨rfl, visible, fun other before same => isNew ?_⟩
    exact List.any_eq_true.mpr ⟨other, before, decide_eq_true same⟩

theorem scanListed_sublist (earlier records : List ApRecord) :
    (scanListed earlier records).Sublist records := by
  induction records generalizing earlier with
  | nil => exact List.Sublist.refl _
  | cons ap rest ih =>
      rcases scanListed_cons earlier ap rest with ⟨listed, -⟩ | ⟨listed, -⟩
      · rw [listed]
        exact (ih _).cons ap
      · rw [listed]
        exact (ih _).cons_cons ap

theorem scanListed_first {earlier records : List ApRecord} {ap : ApRecord}
    (member : ap ∈ scanListed earlier records) :
    ap.ssid.bytes ≠ [] ∧ (∀ other ∈ earlier, other.ssid ≠ ap.ssid) ∧
      records.find? (fun other => decide (other.ssid = ap.ssid)) = some ap := by
  have passes {earlier rest : List ApRecord} {head : ApRecord}
      (ih : ap.ssid.bytes ≠ [] ∧ (∀ other ∈ earlier ++ [head], other.ssid ≠ ap.ssid) ∧
        rest.find? (fun other => decide (other.ssid = ap.ssid)) = some ap) :
      ap.ssid.bytes ≠ [] ∧ (∀ other ∈ earlier, other.ssid ≠ ap.ssid) ∧
        (head :: rest).find? (fun other => decide (other.ssid = ap.ssid)) = some ap := by
    obtain ⟨visible, isNew, first⟩ := ih
    have differs : head.ssid ≠ ap.ssid :=
      isNew head (List.mem_append_right _ (List.mem_singleton_self _))
    refine ⟨visible, fun other before => isNew other (List.mem_append_left _ before), ?_⟩
    rw [List.find?_cons_of_neg (by simpa using differs), first]
  induction records generalizing earlier with
  | nil => cases member
  | cons head rest ih =>
      rcases scanListed_cons earlier head rest with ⟨listed, -⟩ | ⟨listed, visible, isNew⟩
      · rw [listed] at member
        exact passes (ih member)
      · rw [listed] at member
        rcases List.mem_cons.mp member with rfl | later
        · exact ⟨visible, isNew, List.find?_cons_of_pos (by simp)⟩
        · exact passes (ih later)

theorem scanListed_distinct (earlier records : List ApRecord) :
    ((scanListed earlier records).map ApRecord.ssid).Nodup := by
  induction records generalizing earlier with
  | nil => exact List.nodup_nil
  | cons ap rest ih =>
      rcases scanListed_cons earlier ap rest with ⟨listed, -⟩ | ⟨listed, -⟩
      · rw [listed]
        exact ih _
      · rw [listed, List.map_cons, List.nodup_cons]
        refine ⟨fun again => ?_, ih _⟩
        obtain ⟨other, later, same⟩ := List.mem_map.mp again
        obtain ⟨-, isNew, -⟩ := scanListed_first later
        exact isNew ap (List.mem_append_right _ (List.mem_singleton_self _)) same.symm

/-- What a complete list of networks is: in the order of the records, the first record of
each name that is not empty, and no other. -/
structure ListsNetworks (records listed : List ApRecord) : Prop where
  inOrder : listed.Sublist records
  visible : ∀ ap ∈ listed, ap.ssid.bytes ≠ []
  first : ∀ ap ∈ listed, records.find? (fun other => decide (other.ssid = ap.ssid)) = some ap
  distinct : (listed.map ApRecord.ssid).Nodup
  complete : ∀ ap ∈ records, ap.ssid.bytes ≠ [] → ap.ssid ∈ listed.map ApRecord.ssid

theorem scanListed_lists (records : List ApRecord) :
    ListsNetworks records (scanListed [] records) where
  inOrder := scanListed_sublist [] records
  visible _ member := (scanListed_first member).1
  first _ member := (scanListed_first member).2.2
  distinct := scanListed_distinct [] records
  complete ap member visible := by
    obtain ⟨listed, found, same⟩ := mem_scanListed member visible (List.forall_mem_nil _)
    exact List.mem_map.mpr ⟨listed, found, same⟩

/-! The text fits -/

/-- What one byte of a name becomes in ssid_json. -/
def escapeByte (ch : UInt8) : Bytes :=
  if ch = 0x5C ∨ ch = 0x22 then [0x5C, ch] else if 0x20 ≤ ch then [ch] else []

theorem escapeByte_length_le (ch : UInt8) : (escapeByte ch).length ≤ 2 := by
  unfold escapeByte
  split
  · exact le_refl 2
  split
  · exact Nat.le_succ 1
  · exact Nat.zero_le 2

theorem escaped_length_le (name : Bytes) : (name.flatMap escapeByte).length ≤ 2 * name.length := by
  induction name with
  | nil => exact le_refl 0
  | cons ch name ih =>
      have one := escapeByte_length_le ch
      rw [List.flatMap_cons, List.length_append, List.length_cons]
      omega

theorem escapeSsid_eq (name out : Bytes) (fits : out.length + 2 * name.length ≤ ssidJsonSize - 3) :
    escapeSsid name out = out ++ name.flatMap escapeByte := by
  induction name generalizing out with
  | nil => rw [escapeSsid, List.flatMap_nil, List.append_nil]
  | cons ch name ih =>
      rw [List.length_cons] at fits
      rw [escapeSsid, if_pos (by omega), List.flatMap_cons, escapeByte]
      split
      · rw [ih _ (by rw [List.length_append]; simp only [List.length_cons, List.length_nil]; omega),
          List.append_assoc]
      split
      · rw [ih _ (by rw [List.length_append]; simp only [List.length_cons, List.length_nil]; omega),
          List.append_assoc]
      · rw [ih _ (by omega), List.nil_append]

theorem escapeSsid_record (ap : ApRecord) :
    escapeSsid ap.ssid.bytes [] = ap.ssid.bytes.flatMap escapeByte := by
  have fits : ap.ssid.bytes.length ≤ 32 := ap.ssid_fits
  rw [escapeSsid_eq _ _ (by simp only [List.length_nil, ssidJsonSize]; omega), List.nil_append]

theorem decimal_length_le (value : Int8) : (decimal value).length ≤ 4 := by
  have below := value.toInt_lt
  have above := value.le_toInt
  have digits : (Nat.repr value.toInt.natAbs).length ≤ 3 :=
    (Nat.length_repr_le_iff (by decide)).mpr (by omega)
  unfold decimal
  split
  · simp only [ascii, List.length_cons, List.length_map, String.length_toList]
    omega
  · simp only [ascii, List.length_map, String.length_toList]
    omega

theorem scanEntry_length_le (ap : ApRecord) : (scanEntry ap).length ≤ 100 := by
  have fits : ap.ssid.bytes.length ≤ 32 := ap.ssid_fits
  have name := escaped_length_le ap.ssid.bytes
  have rssi := decimal_length_le ap.rssi
  have literals : (ascii "\x7b\"ssid\":\"").length = 9 ∧ (ascii "\",\"rssi\":").length = 9 ∧
      (ascii ",\"open\":").length = 8 ∧ (ascii "\x7d").length = 1 := ⟨rfl, rfl, rfl, rfl⟩
  have flag : (if ap.authmode = wifiAuthOpen then ascii "true" else ascii "false").length ≤ 5 := by
    split <;> decide
  rw [scanEntry, escapeSsid_record]
  simp only [List.length_append]
  omega

def listedText : List ApRecord → Bool → Bytes
  | [], _ => []
  | ap :: rest, first => (if first then [] else ascii ",") ++ scanEntry ap ++ listedText rest false

theorem separator_appended (first : Bool) {buffer : TextBuffer}
    (exactly : buffer.Exact scanJsonSize) (room : buffer.text.length + 1 < scanJsonSize) :
    (if first then buffer else TextBuffer.append scanJsonSize buffer (ascii ",")).Exact
        scanJsonSize ∧
      (if first then buffer else TextBuffer.append scanJsonSize buffer (ascii ",")).text =
        buffer.text ++ if first then [] else ascii "," := by
  cases first with
  | true => exact ⟨exactly, (List.append_nil _).symm⟩
  | false => exact ⟨TextBuffer.append_exact exactly room, TextBuffer.append_text exactly room⟩

/-- Twenty objects never fill s_scan_json: the loop lists every record it has to and no
snprintf is cut. -/
theorem scanJsonLoop_text (earlier records : List ApRecord) (first : Bool) {buffer : TextBuffer}
    (exactly : buffer.Exact scanJsonSize)
    (room : buffer.text.length + 101 * records.length ≤ 2021) :
    (scanJsonLoop earlier records first buffer).Exact scanJsonSize ∧
      (scanJsonLoop earlier records first buffer).text =
        buffer.text ++ listedText (scanListed earlier records) first ∧
      (scanJsonLoop earlier records first buffer).text.length ≤ 2021 := by
  have size : scanJsonSize = 2048 := rfl
  induction records generalizing earlier first buffer with
  | nil =>
      rw [scanJsonLoop, scanListed, listedText, List.append_nil]
      exact ⟨exactly, rfl, by simpa using room⟩
  | cons ap rest ih =>
      rw [List.length_cons] at room
      have enters : buffer.pos < scanJsonSize - 96 := by
        have position := exactly.pos_eq
        omega
      rw [scanJsonLoop, if_pos enters, scanListed]
      split
      · exact ih _ first exactly (by omega)
      split
      · exact ih _ first exactly (by omega)
      obtain ⟨exactSoFar, separated⟩ := separator_appended first exactly (by omega)
      have entry := scanEntry_length_le ap
      have comma : (if first then [] else ascii "," : Bytes).length ≤ 1 := by
        cases first <;> decide
      have length := congrArg List.length separated
      rw [List.length_append] at length
      have fits : (if first then buffer else
            TextBuffer.append scanJsonSize buffer (ascii ",")).text.length +
          (scanEntry ap).length < scanJsonSize := by omega
      have appended := TextBuffer.append_text exactSoFar fits
      have lengthNow := congrArg List.length appended
      rw [List.length_append] at lengthNow
      obtain ⟨exactAfter, textAfter, lengthAfter⟩ := ih (earlier ++ [ap]) false
        (TextBuffer.append_exact exactSoFar fits) (by omega)
      refine ⟨exactAfter, ?_, lengthAfter⟩
      rw [textAfter, appended, separated, listedText]
      simp only [List.append_assoc]

theorem scanJsonOpened_exact : scanJsonOpened.Exact scanJsonSize ∧ scanJsonOpened.text = [0x5B] :=
  ⟨⟨rfl, by decide, rfl⟩, rfl⟩

theorem updateScanCache_json {driver : ScanDriver} (delivers : driver.Delivers)
    (cache : ScanCache) :
    (updateScanCache driver cache).json =
      ascii "[" ++ (listedText (scanListed [] driver.records) true ++ ascii "]") := by
  obtain ⟨exactly, text⟩ := scanJsonOpened_exact
  have bound : driver.records.length ≤ 20 := le_trans driver.records_le (Nat.min_le_right _ _)
  obtain ⟨exactAfter, textAfter, lengthAfter⟩ :=
    scanJsonLoop_text [] driver.records true exactly (by rw [text, List.length_singleton]; omega)
  have closing : (scanJsonLoop [] driver.records true scanJsonOpened).text.length +
      (ascii "]").length < scanJsonSize := by
    have one : (ascii "]").length = 1 := rfl
    simp only [one, scanJsonSize]
    omega
  rw [delivers.updated, scanJsonBuffer, TextBuffer.append_text exactAfter closing, textAfter,
    text, List.append_assoc]
  rfl

/-! The text is JSON -/

/-- The name as a reader of UTF-8 sees it, without the bytes that ssid_json leaves out. -/
def networkName (ap : ApRecord) : Text :=
  Utf8.decode (ap.ssid.bytes.filter (fun byte => decide (0x20 ≤ byte)))

def scanValue (ap : ApRecord) : Json :=
  .object [("ssid".toList, .string (networkName ap)), ("rssi".toList, .number ap.rssi.toInt 0),
    ("open".toList, .bool (decide (ap.authmode = wifiAuthOpen)))]

theorem escapeByte_plain {byte : UInt8} (plain : ¬(byte = 0x5C ∨ byte = 0x22))
    (printable : 0x20 ≤ byte) : escapeByte byte = [byte] := by
  rw [escapeByte, if_neg plain, if_pos printable]

theorem flatMap_escapeByte_filter (name : Bytes) :
    name.flatMap escapeByte =
      (name.filter (fun byte => decide (0x20 ≤ byte))).flatMap escapeByte := by
  induction name with
  | nil => rfl
  | cons byte name ih =>
      by_cases printable : 0x20 ≤ byte
      · rw [List.filter_cons_of_pos (by simpa using printable), List.flatMap_cons,
          List.flatMap_cons, ih]
      · have special : ¬(byte = 0x5C ∨ byte = 0x22) := by
          rintro (rfl | rfl)
          · exact printable (by decide)
          · exact printable (by decide)
        have dropped : escapeByte byte = [] := by
          rw [escapeByte, if_neg special, if_neg printable]
        rw [List.filter_cons_of_neg (by simpa using printable), List.flatMap_cons, dropped,
          List.nil_append, ih]

theorem renderChar_plain {char : Char} (notQuote : char.toNat ≠ 0x22)
    (notBackslash : char.toNat ≠ 0x5C) (printable : 0x20 ≤ char.toNat) :
    Json.renderChar char = [char] := by
  have plain : ¬(char = '"' ∨ char = '\\') := by
    rintro (rfl | rfl)
    · exact notQuote rfl
    · exact notBackslash rfl
  rw [Json.renderChar, if_neg plain, if_neg (Nat.not_lt.mpr printable)]

theorem rendered_of_plain {text : Text} (plain : ∀ char ∈ text, Json.renderChar char = [char]) :
    text.flatMap Json.renderChar = text := by
  rw [List.flatMap_congr plain, List.flatMap_singleton']

theorem rendered_end (decoder : Utf8.Decoder) :
    (Utf8.decodeFrom decoder []).flatMap Json.renderChar = Utf8.decodeFrom decoder [] := by
  cases decoder with
  | start => rfl
  | owed more codePoint lower upper completes =>
      rw [Utf8.decodeFrom]
      decide

/-- The firmware escapes bytes, JSON escapes characters: decoding takes the one to the other,
in whatever state the decoder is. -/
theorem decodeFrom_escaped (decoder : Utf8.Decoder) {name : Bytes}
    (printable : ∀ byte ∈ name, 0x20 ≤ byte) :
    Utf8.decodeFrom decoder (name.flatMap escapeByte) =
      (Utf8.decodeFrom decoder name).flatMap Json.renderChar := by
  induction name generalizing decoder with
  | nil => exact (rendered_end decoder).symm
  | cons byte name ih =>
      have rest := fun other member => printable other (List.mem_cons_of_mem _ member)
      have here := printable byte List.mem_cons_self
      by_cases special : byte = 0x5C ∨ byte = 0x22
      · have isAscii : byte.toNat < 0x80 := by
          rcases special with rfl | rfl <;> decide
        have escaped : Json.renderChar (Char.ofNat byte.toNat) =
            ['\\', Char.ofNat byte.toNat] := by
          rcases special with rfl | rfl <;> decide
        have backslash : Utf8.decodeFrom decoder (0x5C :: byte :: name.flatMap escapeByte) =
            Utf8.decodeFrom decoder [] ++ '\\' :: Utf8.decode (byte :: name.flatMap escapeByte) :=
          Utf8.decodeFrom_append_ascii (by decide) _ decoder []
        have itself : Utf8.decodeFrom decoder (byte :: name) =
            Utf8.decodeFrom decoder [] ++ Char.ofNat byte.toNat :: Utf8.decode name :=
          Utf8.decodeFrom_append_ascii isAscii _ decoder []
        have tail : Utf8.decode (name.flatMap escapeByte) =
          (Utf8.decode name).flatMap Json.renderChar := ih .start rest
        calc
          Utf8.decodeFrom decoder ((byte :: name).flatMap escapeByte) =
              Utf8.decodeFrom decoder (0x5C :: byte :: name.flatMap escapeByte) := by
            rw [List.flatMap_cons, escapeByte, if_pos special]
            rfl
          _ = Utf8.decodeFrom decoder [] ++
              '\\' :: Char.ofNat byte.toNat :: (Utf8.decode name).flatMap Json.renderChar := by
            rw [backslash, Utf8.decode_cons_ascii isAscii, tail]
          _ = (Utf8.decodeFrom decoder [] ++
              Char.ofNat byte.toNat :: Utf8.decode name).flatMap Json.renderChar := by
            rw [List.flatMap_append, rendered_end, List.flatMap_cons, escaped]
            rfl
          _ = (Utf8.decodeFrom decoder (byte :: name)).flatMap Json.renderChar := by rw [itself]
      · have plain : ∀ char ∈ (Utf8.next decoder byte.toNat).1, Json.renderChar char = [char] := by
          obtain ⟨notBackslash, notQuote⟩ := not_or.mp special
          have backslash : byte.toNat ≠ 0x5C := fun equal => notBackslash (UInt8.toNat_inj.mp equal)
          have quote : byte.toNat ≠ 0x22 := fun equal => notQuote (UInt8.toNat_inj.mp equal)
          have least : 0x20 ≤ byte.toNat := UInt8.le_iff_toNat_le.mp here
          intro char member
          rcases Utf8.next_chars decoder byte.toNat char member with same | wide
          · exact renderChar_plain (by omega) (by omega) (by omega)
          · exact renderChar_plain (by omega) (by omega) (by omega)
        calc
          Utf8.decodeFrom decoder ((byte :: name).flatMap escapeByte) =
              Utf8.decodeFrom decoder (byte :: name.flatMap escapeByte) := by
            rw [List.flatMap_cons, escapeByte_plain special here, List.singleton_append]
          _ = (Utf8.next decoder byte.toNat).1 ++
              (Utf8.decodeFrom (Utf8.next decoder byte.toNat).2 name).flatMap Json.renderChar := by
            rw [Utf8.decodeFrom_cons, ih _ rest]
          _ = (Utf8.decodeFrom decoder (byte :: name)).flatMap Json.renderChar := by
            rw [Utf8.decodeFrom_cons, List.flatMap_append, rendered_of_plain plain]

theorem toDigits_ascii (value : Nat) : ∀ char ∈ Nat.toDigits 10 value, char.toNat < 0x80 := by
  intro char member
  have digit := Json.toDigits_isDigit value char member
  simp only [Char.isDigit, Bool.and_eq_true, decide_eq_true_eq] at digit
  exact Nat.lt_of_le_of_lt (UInt32.le_iff_toNat_le.mp digit.2) (by decide)

/-- A way of reading the served bytes: ASCII bytes stand for themselves wherever they are, and
the escaped form of a name reads as the escaped form of what the name reads as. -/
structure Reading where
  text : Bytes → Text
  empty : text [] = []
  append_ascii : ∀ {byte : UInt8}, byte.toNat < 0x80 → ∀ front rest,
    text (front ++ byte :: rest) = text front ++ Char.ofNat byte.toNat :: text rest
  escaped : ∀ {name : Bytes}, (∀ byte ∈ name, 0x20 ≤ byte) →
    text (name.flatMap escapeByte) = (text name).flatMap Json.renderChar

/-- As the page reads it. -/
def utf8Reading : Reading where
  text := Utf8.decode
  empty := rfl
  append_ascii isAscii front rest := Utf8.decodeFrom_append_ascii isAscii rest .start front
  escaped printable := decodeFrom_escaped .start printable

def byteChar (byte : UInt8) : Char := Char.ofNat byte.toNat

theorem byteChar_toNat (byte : UInt8) : (byteChar byte).toNat = byte.toNat := by
  have small := byte.toNat_lt
  rw [byteChar, Char.toNat_ofNat, if_pos (Or.inl (by omega))]

def byteReading : Reading where
  text := List.map byteChar
  empty := rfl
  append_ascii _ front rest := by
    rw [List.map_append, List.map_cons]
    rfl
  escaped {name} printable := by
    rw [List.map_flatMap, List.flatMap_map]
    apply List.flatMap_congr
    intro byte member
    have least : 0x20 ≤ byte.toNat := UInt8.le_iff_toNat_le.mp (printable byte member)
    by_cases special : byte = 0x5C ∨ byte = 0x22
    · rcases special with rfl | rfl
      · rfl
      · rfl
    · obtain ⟨notBackslash, notQuote⟩ := not_or.mp special
      rw [escapeByte_plain special (printable byte member), renderChar_plain]
      · rfl
      · rw [byteChar_toNat]
        exact fun equal => notQuote (UInt8.toNat_inj.mp equal)
      · rw [byteChar_toNat]
        exact fun equal => notBackslash (UInt8.toNat_inj.mp equal)
      · rw [byteChar_toNat]
        exact least

namespace Reading

variable (reading : Reading)

theorem cons_ascii {byte : UInt8} (isAscii : byte.toNat < 0x80) (rest : Bytes) :
    reading.text (byte :: rest) = Char.ofNat byte.toNat :: reading.text rest := by
  have read := reading.append_ascii isAscii [] rest
  rwa [List.nil_append, reading.empty, List.nil_append] at read

theorem append_cons {byte : UInt8} (isAscii : byte.toNat < 0x80) (front rest : Bytes) :
    reading.text (front ++ byte :: rest) = reading.text front ++ reading.text (byte :: rest) := by
  rw [reading.append_ascii isAscii, reading.cons_ascii isAscii]

theorem literal {text : Text} (isAscii : ∀ char ∈ text, char.toNat < 0x80) (rest : Bytes) :
    reading.text (text.map (fun char => UInt8.ofNat char.toNat) ++ rest) =
      text ++ reading.text rest := by
  induction text with
  | nil => rfl
  | cons char text ih =>
      have small : char.toNat < 0x80 := isAscii char List.mem_cons_self
      have value : (UInt8.ofNat char.toNat).toNat = char.toNat :=
        UInt8.toNat_ofNat_of_lt' (Nat.lt_trans small (by decide))
      rw [List.map_cons, List.cons_append, reading.cons_ascii (by rw [value]; exact small), value,
        Char.ofNat_toNat, ih (fun other member => isAscii other (List.mem_cons_of_mem _ member)),
        List.cons_append]

def name (ap : ApRecord) : Text :=
  reading.text (ap.ssid.bytes.filter (fun byte => decide (0x20 ≤ byte)))

def value (ap : ApRecord) : Json :=
  .object [("ssid".toList, .string (reading.name ap)), ("rssi".toList, .number ap.rssi.toInt 0),
    ("open".toList, .bool (decide (ap.authmode = wifiAuthOpen)))]

theorem escapedName (ap : ApRecord) :
    reading.text (ap.ssid.bytes.flatMap escapeByte) =
      (reading.name ap).flatMap Json.renderChar := by
  rw [flatMap_escapeByte_filter]
  apply reading.escaped
  intro byte member
  exact of_decide_eq_true (List.mem_filter.mp member).2

theorem decimal (rssi : Int8) (rest : Bytes) :
    reading.text (HydroGovernor.decimal rssi ++ rest) =
      Json.renderInt rssi.toInt ++ reading.text rest := by
  have digits : reading.text (ascii (Nat.repr rssi.toInt.natAbs) ++ rest) =
      Nat.toDigits 10 rssi.toInt.natAbs ++ reading.text rest := by
    rw [ascii, Nat.toList_repr]
    exact reading.literal (toDigits_ascii _) rest
  rw [HydroGovernor.decimal, Json.renderInt]
  split
  · rw [List.cons_append, reading.cons_ascii (by decide), digits]
    rfl
  · exact digits

theorem flag (isOpen : Bool) (rest : Bytes) :
    reading.text ((if isOpen then ascii "true" else ascii "false") ++ rest) =
      Json.render (.bool isOpen) ++ reading.text rest := by
  cases isOpen with
  | true => exact reading.literal (by simp) rest
  | false => exact reading.literal (by simp) rest

theorem entry (ap : ApRecord) (rest : Bytes) :
    reading.text (scanEntry ap ++ rest) = Json.render (reading.value ap) ++ reading.text rest := by
  have flag : (if ap.authmode = wifiAuthOpen then ascii "true" else ascii "false") =
      if decide (ap.authmode = wifiAuthOpen) then ascii "true" else ascii "false" := by
    simp only [decide_eq_true_eq]
  have opening (after : Bytes) : reading.text (ascii "\x7b\"ssid\":\"" ++ after) =
      "\x7b\"ssid\":\"".toList ++ reading.text after := reading.literal (by simp) after
  have middle (name after : Bytes) : reading.text (name ++ (ascii "\",\"rssi\":" ++ after)) =
      reading.text name ++ ("\",\"rssi\":".toList ++ reading.text after) := by
    rw [← reading.literal (by simp) after]
    exact reading.append_cons (by decide) name _
  have label (after : Bytes) : reading.text (ascii ",\"open\":" ++ after) =
      ",\"open\":".toList ++ reading.text after := reading.literal (by simp) after
  have closing : reading.text (ascii "\x7d" ++ rest) = "\x7d".toList ++ reading.text rest :=
    reading.literal (by simp) rest
  rw [scanEntry, escapeSsid_record, flag]
  simp only [List.append_assoc]
  rw [opening, middle, reading.escapedName]
  rw [reading.decimal, label]
  rw [reading.flag, closing]
  simp [value, Json.render, Json.renderMembers, Json.renderText, Json.renderChar,
    Json.separator, Json.renderNumber]

theorem elements (listed : List ApRecord) :
    reading.text (listedText listed true ++ ascii "]") =
      Json.renderElements (listed.map reading.value) := by
  induction listed with
  | nil =>
      have bracket : reading.text (ascii "]" ++ []) = "]".toList ++ reading.text [] :=
        reading.literal (by simp) []
      rwa [List.append_nil, reading.empty, List.append_nil] at bracket
  | cons ap later ih =>
      have entry : listedText (ap :: later) true ++ ascii "]" =
          scanEntry ap ++ (listedText later false ++ ascii "]") := by
        rw [listedText, if_pos rfl, List.nil_append, List.append_assoc]
      have following : reading.text (listedText later false ++ ascii "]") =
          Json.separator (later.map reading.value) ++
            Json.renderElements (later.map reading.value) := by
        cases later with
        | nil => exact ih
        | cons second later =>
            have comma : listedText (second :: later) false ++ ascii "]" =
                0x2C :: (listedText (second :: later) true ++ ascii "]") := by
              rw [listedText, listedText]
              rfl
            rw [comma, reading.cons_ascii (by decide), ih]
            rfl
      rw [entry, reading.entry, following, List.map_cons, Json.renderElements]

theorem scanJson {driver : ScanDriver} (delivers : driver.Delivers) (cache : ScanCache) :
    Json.read (reading.text (updateScanCache driver cache).json) =
      some (.array ((scanListed [] driver.records).map reading.value)) := by
  have text : reading.text (updateScanCache driver cache).json =
      Json.render (.array ((scanListed [] driver.records).map reading.value)) := by
    rw [updateScanCache_json delivers, Json.render, ← reading.elements]
    exact reading.cons_ascii (by decide) _
  rw [text, Json.read_render]

end Reading

theorem scanJson_read {driver : ScanDriver} (delivers : driver.Delivers) (cache : ScanCache) :
    Json.read (Utf8.decode (updateScanCache driver cache).json) =
      some (.array ((scanListed [] driver.records).map scanValue)) :=
  utf8Reading.scanJson delivers cache

theorem scanJsonBuffer_exact {records : List ApRecord} (fetched : records.length ≤ 20) :
    (scanJsonBuffer records).Exact scanJsonSize := by
  have size : scanJsonSize = 2048 := rfl
  have closing : (ascii "]").length = 1 := rfl
  obtain ⟨exactly, text⟩ := scanJsonOpened_exact
  obtain ⟨exactAfter, -, lengthAfter⟩ :=
    scanJsonLoop_text [] records true exactly (by rw [text, List.length_singleton]; omega)
  exact TextBuffer.append_exact exactAfter (by omega)

theorem updateScanCache_nothing {driver : ScanDriver} (nothing : driver.apNum = 0)
    (cache : ScanCache) :
    driver.records = [] ∧ (updateScanCache driver cache).json = emptyJson := by
  constructor
  · have none_fetched := driver.records_le
    rw [nothing] at none_fetched
    exact List.eq_nil_of_length_eq_zero (by simpa using none_fetched)
  · rw [updateScanCache, if_pos nothing]

theorem updateScanCache_listed (driver : ScanDriver) (cache : ScanCache)
    (succeeds : driver.apNum ≠ 0 → driver.allocates = true ∧ driver.fetch = .ok) :
    ∃ listed, ListsNetworks driver.records listed ∧
      Json.read (byteReading.text (updateScanCache driver cache).json) =
        some (.array (listed.map byteReading.value)) ∧
      Json.read (utf8Reading.text (updateScanCache driver cache).json) =
        some (.array (listed.map utf8Reading.value)) := by
  refine ⟨_, scanListed_lists driver.records, ?_⟩
  by_cases nothing : driver.apNum = 0
  · obtain ⟨noRecords, blank⟩ := updateScanCache_nothing nothing cache
    rw [noRecords, blank]
    exact ⟨Json.read_render (.array []), Json.read_render (.array [])⟩
  · obtain ⟨allocates, fetches⟩ := succeeds nothing
    have delivers : driver.Delivers := ⟨nothing, allocates, fetches⟩
    exact ⟨byteReading.scanJson delivers cache, utf8Reading.scanJson delivers cache⟩

/-- After a successful update_scan_cache the text fitted and is the complete list, as bytes and
as UTF-8. -/
theorem scanList_complete (driver : ScanDriver) (cache : ScanCache)
    (succeeds : driver.apNum ≠ 0 → driver.allocates = true ∧ driver.fetch = .ok) :
    (scanJsonBuffer driver.records).Exact scanJsonSize ∧
      ∃ listed, ListsNetworks driver.records listed ∧
        Json.read (byteReading.text (updateScanCache driver cache).json) =
          some (.array (listed.map byteReading.value)) ∧
        Json.read (utf8Reading.text (updateScanCache driver cache).json) =
          some (.array (listed.map utf8Reading.value)) := by
  have fetched : driver.records.length ≤ 20 := le_trans driver.records_le (Nat.min_le_right _ _)
  exact ⟨scanJsonBuffer_exact fetched, updateScanCache_listed driver cache succeeds⟩

def terrace : ApRecord where
  ssid := CString.ofBuffer (ascii "terrace")
  bssid := 0x020000000001
  primary := 6
  rssi := -61
  authmode := wifiAuthOpen
  ssid_fits := by decide

def terraceTwice : ScanDriver where
  apNum := 2
  allocates := true
  fetch := .ok
  records := [terrace, { terrace with bssid := 0x020000000002, rssi := -74 }]
  records_le := by decide

theorem terrace_listed :
    (scanJsonBuffer terraceTwice.records).Exact scanJsonSize ∧
      ∃ listed, ListsNetworks terraceTwice.records listed ∧
        Json.read (byteReading.text (updateScanCache terraceTwice ScanCache.blank).json) =
          some (.array (listed.map byteReading.value)) ∧
        Json.read (utf8Reading.text (updateScanCache terraceTwice ScanCache.blank).json) =
          some (.array (listed.map utf8Reading.value)) :=
  scanList_complete terraceTwice ScanCache.blank (fun _ => ⟨rfl, rfl⟩)

/-! loadScan -/

/-- What the page keeps of an object of the list. -/
structure Network where
  ssid : Text
  rssi : Int
  isOpen : Bool
  deriving DecidableEq, Repr

/-- `none` where the page would find a field missing or of another kind. -/
def networkOf (value : Json) : Option Network :=
  match value.member "ssid".toList, value.member "rssi".toList, value.member "open".toList with
  | some (.string ssid), some (.number rssi 0), some (.bool isOpen) => some ⟨ssid, rssi, isOpen⟩
  | _, _, _ => none

/-- The list in the order of the page, the strongest network first. -/
def loadScan (json : Bytes) : Option (List Network) :=
  match Json.read (Utf8.decode json) with
  | some (.array elements) =>
      (elements.mapM networkOf).map
        (List.mergeSort · (fun left right => decide (right.rssi ≤ left.rssi)))
  | _ => none

def shownNetwork (ap : ApRecord) : Network :=
  ⟨networkName ap, ap.rssi.toInt, decide (ap.authmode = wifiAuthOpen)⟩

theorem networkOf_scanValue (ap : ApRecord) :
    networkOf (scanValue ap) = some (shownNetwork ap) := by
  rfl

theorem mapM_networkOf (listed : List ApRecord) :
    (listed.map scanValue).mapM networkOf = some (listed.map shownNetwork) := by
  induction listed with
  | nil => rfl
  | cons ap later ih =>
      rw [List.map_cons, List.mapM_cons, networkOf_scanValue, ih]
      rfl

theorem loadScan_updated {driver : ScanDriver} (delivers : driver.Delivers) (cache : ScanCache) :
    ∃ networks, loadScan (updateScanCache driver cache).json = some networks ∧
      ∀ network, network ∈ networks ↔
        ∃ ap ∈ scanListed [] driver.records, shownNetwork ap = network := by
  rw [loadScan, scanJson_read delivers]
  dsimp only
  rw [mapM_networkOf]
  refine ⟨_, rfl, ?_⟩
  intro network
  rw [List.mem_mergeSort, List.mem_map]

theorem networkName_encoded {ap : ApRecord} {name : Text}
    (named : Utf8.encode name = ap.ssid.bytes) (printable : ∀ byte ∈ ap.ssid.bytes, 0x20 ≤ byte) :
    networkName ap = name := by
  have kept : ap.ssid.bytes.filter (fun byte => decide (0x20 ≤ byte)) = ap.ssid.bytes := by
    apply List.filter_eq_self.mpr
    intro byte member
    exact decide_eq_true (printable byte member)
  rw [networkName, kept, ← named, Utf8.decode_encode]

theorem updateScanCache_records {driver : ScanDriver} (delivers : driver.Delivers)
    (cache : ScanCache) :
    (updateScanCache driver cache).records.take (updateScanCache driver cache).count =
      driver.records := by
  rw [delivers.updated]
  exact List.take_left

end HydroGovernor
