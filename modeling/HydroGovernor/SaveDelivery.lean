import HydroGovernor.FormFields
import HydroGovernor.OtaUpdate

/-! The one httpd_req_recv of save_handler, under every way in which a connection delivers the
body. -/

namespace HydroGovernor

open Firmware

/-- What httpd_req_recv copies when the connection has this many bytes ready. -/
def receivePart (offered : Nat) (content : Bytes) : Bytes :=
  content.take (chunkSize offered (min (saveBodySize - 1) content.length))

/-- The request under a delivery, which says how many bytes are ready at each call. -/
def saveRequest (state : MgrState) (delivery : Nat → Nat) (content : Bytes) : SaveReply :=
  saveHandler state (receivePart (delivery 0) content)

/-- No two deliveries lead to different answers or to different credentials. -/
def DeliveryIndependent (state : MgrState) (content : Bytes) : Prop :=
  ∀ first second : Nat → Nat, saveRequest state first content = saveRequest state second content

/-! The search in the front part of a body -/

theorem strstr_append {needle front p : Bytes} (found : strstr needle front = some p)
    (rest : Bytes) : strstr needle (front ++ rest) = some (p ++ rest) := by
  induction front with
  | nil =>
      rw [strstr] at found
      split at found
      · rename_i empty
        cases found
        subst empty
        cases rest with
        | nil => rfl
        | cons byte rest => rfl
      · cases found
  | cons byte front ih =>
      rw [List.cons_append, strstr]
      rw [strstr] at found
      split at found
      · rename_i here
        cases found
        have further : needle.isPrefixOf (byte :: (front ++ rest)) = true :=
          List.isPrefixOf_iff_prefix.mpr
            ((List.isPrefixOf_iff_prefix.mp here).trans (List.prefix_append _ rest))
        rw [if_pos further, List.cons_append]
      · rename_i notHere
        obtain ⟨before, split, starts, _⟩ := strstr_some found
        have further : ¬ needle.isPrefixOf (byte :: (front ++ rest)) = true := by
          intro here
          apply notHere
          rw [List.isPrefixOf_iff_prefix] at here ⊢
          have long := starts.length_le
          apply List.prefix_of_prefix_length_le here (List.prefix_append (byte :: front) rest)
          rw [split, List.length_cons, List.length_append]
          omega
        rw [if_neg further, ih found]

def ssidKey : Bytes := [0x73, 0x3D]

def ssidText (received : Bytes) : CString :=
  fieldText (extractField (CString.ofBuffer received) [0x73] saveFieldSize)

theorem ssidText_found {received p : Bytes}
    (found : strstr ssidKey (CString.ofBuffer received).bytes = some p) :
    ssidText received = CString.ofBuffer (urlDecode saveFieldSize (rawValue [0x73] p)) := by
  have key : fieldKey [0x73] = ssidKey := rfl
  rw [ssidText, extractField, findField_eq, key, found]
  rfl

theorem ssidText_absent {received : Bytes}
    (absent : strstr ssidKey (CString.ofBuffer received).bytes = none) :
    ssidText received = CString.empty := by
  have key : fieldKey [0x73] = ssidKey := rfl
  rw [ssidText, extractField, findField_eq, key, absent]
  rfl

/-- Nothing stands behind the first `s=` of the body, up to the next separator. -/
def NamesNoNetwork (content : Bytes) : Prop :=
  ∀ p, strstr ssidKey (CString.ofBuffer content).bytes = some p → rawValue [0x73] p = []

theorem ofBuffer_take (content : Bytes) (count : Nat) :
    (CString.ofBuffer (content.take count)).bytes =
      (CString.ofBuffer content).bytes.take count := by
  induction content generalizing count with
  | nil => simp [CString.ofBuffer]
  | cons byte rest ih =>
      cases count with
      | zero => rfl
      | succ count =>
          have later := ih count
          by_cases nul : byte = 0
          · subst nul
            rfl
          · simp only [CString.ofBuffer, List.take_succ_cons] at later ⊢
            rw [List.takeWhile_cons_of_pos (by simpa using nul),
              List.takeWhile_cons_of_pos (by simpa using nul), List.take_succ_cons, later]

theorem rawValue_front {field p rest : Bytes} (empty : rawValue field (p ++ rest) = [])
    (starts : field.length + 1 ≤ p.length) : rawValue field p = [] := by
  rw [rawValue, List.drop_append_of_le_length starts] at empty
  rw [rawValue]
  cases behind : p.drop (field.length + 1) with
  | nil => rfl
  | cons byte after =>
      rw [behind, List.cons_append, List.takeWhile_cons] at empty
      rw [List.takeWhile_cons]
      split at empty
      · cases empty
      · rename_i separator
        rw [if_neg separator]

theorem ssidText_unnamed {content : Bytes} (unnamed : NamesNoNetwork content) (count : Nat) :
    ssidText (content.take count) = CString.empty := by
  cases found : strstr ssidKey (CString.ofBuffer (content.take count)).bytes with
  | none => exact ssidText_absent found
  | some p =>
      have whole := strstr_append found ((CString.ofBuffer content).bytes.drop count)
      rw [ofBuffer_take, List.take_append_drop] at whole
      obtain ⟨_, _, starts, _⟩ := strstr_some found
      have empty := rawValue_front (unnamed _ whole) starts.length_le
      rw [ssidText_found found, empty]
      rfl

theorem urlDecode_byte : ∀ code : UInt8, code ≠ 0 →
    CString.ofBuffer (urlDecode saveFieldSize [code]) ≠ CString.empty := by
  decide +kernel

/-- A body with a network name has a front part of which save_handler takes one: up to the
first byte of the name. -/
theorem ssidText_named {content : Bytes} (named : ¬ NamesNoNetwork content) :
    ∃ count, 1 ≤ count ∧ count ≤ content.length ∧
      ssidText (content.take count) ≠ CString.empty := by
  simp only [NamesNoNetwork, not_forall] at named
  obtain ⟨p, found, raw⟩ := named
  obtain ⟨front, split, ⟨after, starts⟩, _⟩ := strstr_some found
  subst starts
  cases after with
  | nil => exact absurd rfl raw
  | cons code after =>
      have notSeparator : code ≠ 0x26 := by
        rintro rfl
        exact raw rfl
      have notNul : code ≠ 0 := by
        have noNul := List.all_eq_true.mp (CString.ofBuffer content).noNul code
          (by rw [split]; simp)
        simpa using noNul
      have long : (CString.ofBuffer content).bytes.length ≤ content.length :=
        (List.takeWhile_prefix _).length_le
      have part : (CString.ofBuffer (content.take (front.length + 3))).bytes =
          front ++ (ssidKey ++ [code]) := by
        rw [ofBuffer_take, split, List.take_length_add_append]
        rfl
      have place : strstr ssidKey (CString.ofBuffer (content.take (front.length + 3))).bytes =
          some (ssidKey ++ [code]) := by
        rw [part]
        cases here : strstr ssidKey (front ++ (ssidKey ++ [code])) with
        | none =>
            exact absurd ⟨front, [code], by rw [List.append_assoc]⟩ (strstr_none here)
        | some q =>
            have whole := strstr_append here after
            have same : front ++ (ssidKey ++ [code]) ++ after =
                (CString.ofBuffer content).bytes := by
              rw [split]
              simp
            rw [same, found] at whole
            have tail : ssidKey ++ [code] ++ after = q ++ after := by
              simpa using Option.some.inj whole
            rw [List.append_cancel_right tail]
      have name : rawValue [0x73] (ssidKey ++ [code]) = [code] := by
        simp [rawValue, ssidKey, notSeparator]
      refine ⟨front.length + 3, by omega, ?_, ?_⟩
      · rw [split] at long
        simp only [ssidKey, List.length_append, List.length_cons, List.length_nil] at long
        omega
      · rw [ssidText_found place, name]
        exact urlDecode_byte code notNul

/-! The request -/

theorem saveHandler_required {state : MgrState} {received : Bytes}
    (accepting : ¬(state = .connecting ∨ state = .connected)) (nonempty : received ≠ []) :
    saveHandler state received = .ssidRequired ↔ ssidText received = CString.empty := by
  have empty_iff : ssidText received = CString.empty ↔ (ssidText received).bytes = [] :=
    ⟨fun empty => by rw [empty]; rfl, fun empty => CString.ext empty⟩
  rw [empty_iff, saveHandler, if_neg accepting, if_neg nonempty]
  constructor
  · intro required
    by_contra named
    cases (if_neg named).symm.trans required
  · intro unnamed
    exact if_pos unnamed

theorem receivePart_take {content : Bytes} (fits : content.length ≤ 383) {count : Nat}
    (positive : 1 ≤ count) (inside : count ≤ content.length) :
    receivePart count content = content.take count := by
  rw [receivePart, chunkSize, saveBodySize]
  congr 1
  omega

theorem receivePart_nonempty {content : Bytes} (nonempty : 1 ≤ content.length) (offered : Nat) :
    receivePart offered content ≠ [] := by
  intro empty
  have length := congrArg List.length empty
  rw [receivePart, chunkSize, List.length_take, List.length_nil] at length
  omega

theorem ssidText_one (content : Bytes) : ssidText (content.take 1) = CString.empty := by
  apply ssidText_absent
  cases found : strstr ssidKey (CString.ofBuffer (content.take 1)).bytes with
  | none => rfl
  | some p =>
      obtain ⟨front, split, starts, _⟩ := strstr_some found
      have long := starts.length_le
      have short : (CString.ofBuffer (content.take 1)).bytes.length ≤ 1 :=
        (List.takeWhile_prefix _).length_le.trans (List.length_take_le 1 content)
      rw [split, List.length_append] at short
      simp only [ssidKey, List.length_cons, List.length_nil] at long
      omega

/-- The delivery does not matter exactly when save_handler is busy or the body names no
network. -/
theorem save_delivery_iff (state : MgrState) (content : Bytes) (nonempty : 1 ≤ content.length)
    (fits : content.length ≤ 383) :
    DeliveryIndependent state content ↔
      (state = .connecting ∨ state = .connected) ∨ NamesNoNetwork content := by
  by_cases busy : state = .connecting ∨ state = .connected
  · apply iff_of_true _ (.inl busy)
    intro first second
    rw [saveRequest, saveRequest, saveHandler, saveHandler, if_pos busy, if_pos busy]
  · have required_iff := fun offered =>
      saveHandler_required busy (receivePart_nonempty nonempty offered)
    rw [or_iff_right busy]
    constructor
    · intro independent
      by_contra named
      obtain ⟨count, positive, inside, taken⟩ := ssidText_named named
      have required : saveRequest state (fun _ => 1) content = .ssidRequired := by
        rw [saveRequest, required_iff, receivePart_take fits le_rfl nonempty]
        exact ssidText_one content
      rw [independent (fun _ => 1) (fun _ => count), saveRequest, required_iff,
        receivePart_take fits positive inside] at required
      exact taken required
    · intro unnamed first second
      have required : ∀ delivery, saveRequest state delivery content = .ssidRequired := by
        intro delivery
        rw [saveRequest, required_iff, receivePart]
        exact ssidText_unnamed unnamed _
      rw [required, required]

theorem unnamed_delivery : DeliveryIndependent .apOnly (ascii "s=&p=water") := by
  apply (save_delivery_iff .apOnly (ascii "s=&p=water") (by decide) (by decide)).mpr
  refine .inr ?_
  intro p found
  have place : strstr ssidKey (CString.ofBuffer (ascii "s=&p=water")).bytes =
      some (ascii "s=&p=water") := by decide
  cases place.symm.trans found
  decide

/-- The password is cut where the first packet ends. -/
theorem password_cut :
    ¬ ∀ state content, 1 ≤ content.length → content.length ≤ 383 →
      DeliveryIndependent state content := by
  intro every
  have same := every .apOnly (ascii "s=terrace&p=watering1&o=0") (by decide) (by decide)
    (fun _ => 15) (fun _ => 25)
  revert same
  decide +kernel

end HydroGovernor
