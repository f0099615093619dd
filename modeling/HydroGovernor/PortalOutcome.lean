import HydroGovernor.Portal

/-! What the setup page shows in the end, and what the device has done by then. -/

namespace HydroGovernor

open Firmware
open Firmware.Transition (Run)
open Firmware.Utf8 (Text)

/-! One step more -/

section
variable (trace : List (Portal × PortalAction)) (taken : Portal × PortalAction)

theorem submissions_snoc :
    submissions (trace ++ [taken]) = submissions trace ++ (submission taken.2).toList :=
  Transition.filterMap_snoc _ trace taken

theorem ownAttempt_snoc (index : Nat) :
    ownAttempt index (trace ++ [taken]) = observeOwn index (ownAttempt index trace) taken := by
  rw [ownAttempt, List.foldl_append]
  rfl

theorem lastAddress_snoc :
    lastAddress (trace ++ [taken]) = observeAddress (lastAddress trace) taken := by
  rw [lastAddress, List.foldl_append]
  rfl

end

section
variable {trace : List (Portal × PortalAction)} {taken : Portal × PortalAction} {index : Nat}

theorem ownAttempt_staged {ssid pass : CString} {isOpen : Bool}
    (stages : taken.1.stages index taken.2 = some (ssid, pass, isOpen)) :
    ownAttempt index (trace ++ [taken]) = some ⟨ssid, pass, isOpen, [], none⟩ := by
  rw [ownAttempt_snoc, observeOwn, stages]

theorem ownAttempt_goes_on (other : taken.1.stages index taken.2 = none) :
    ownAttempt index (trace ++ [taken]) = (ownAttempt index trace).map (fun attempt =>
      attempt.goOn (taken.1.linkEvent taken.2) (taken.1.enters index taken.2)) := by
  rw [ownAttempt_snoc, observeOwn, other]

theorem submission_kept {form : TypedForm} (posted : (submissions trace)[index]? = some form) :
    (submissions (trace ++ [taken]))[index]? = some form := by
  rw [submissions_snoc]
  exact List.getElem?_append_left (List.getElem?_eq_some_iff.mp posted).1 ▸ posted

theorem FormTaken.goes_on {form : TypedForm} {ssid pass : CString} {isOpen : Bool}
    (received : FormTaken trace index form ssid pass isOpen) :
    FormTaken (trace ++ [taken]) index form ssid pass isOpen := by
  obtain ⟨portal, offered, member, arrived⟩ := received
  exact ⟨portal, offered, List.mem_append_left _ member, arrived⟩

theorem Tried.goes_on {gone later : OwnAttempt → Prop} (tried : Tried trace index gone)
    (other : taken.1.stages index taken.2 = none)
    (grows : ∀ attempt, gone attempt →
      later (attempt.goOn (taken.1.linkEvent taken.2) (taken.1.enters index taken.2))) :
    Tried (trace ++ [taken]) index later := by
  obtain ⟨form, attempt, posted, own, received, holds⟩ := tried
  refine ⟨form, attempt.goOn (taken.1.linkEvent taken.2) (taken.1.enters index taken.2),
    submission_kept posted, ?_, received.goes_on, grows _ holds⟩
  rw [ownAttempt_goes_on other, own]
  rfl

theorem goOn_idle (attempt : OwnAttempt) : attempt.goOn none false = attempt := by
  obtain ⟨ssid, pass, isOpen, events, sinceEntry⟩ := attempt
  cases sinceEntry with
  | none => simp [OwnAttempt.goOn]
  | some later => simp [OwnAttempt.goOn]

theorem ownAttempt_idle (other : taken.1.stages index taken.2 = none)
    (noEvent : taken.1.linkEvent taken.2 = none)
    (outside : taken.1.enters index taken.2 = false) :
    ownAttempt index (trace ++ [taken]) = ownAttempt index trace := by
  rw [ownAttempt_goes_on other, noEvent, outside]
  cases ownAttempt index trace with
  | none => rfl
  | some attempt => exact congrArg some (goOn_idle attempt)

theorem Tried.idle {gone : OwnAttempt → Prop} (tried : Tried trace index gone)
    (other : taken.1.stages index taken.2 = none) (noEvent : taken.1.linkEvent taken.2 = none)
    (outside : taken.1.enters index taken.2 = false) : Tried (trace ++ [taken]) index gone := by
  apply tried.goes_on other
  intro attempt holds
  rw [noEvent, outside, goOn_idle]
  exact holds

section
variable {attempt : OwnAttempt} (event : Option LinkEvent) (enters : Bool)

theorem goOn_entered {later : List LinkEvent} (entered : attempt.sinceEntry = some later) :
    (attempt.goOn event enters).sinceEntry = some (later ++ event.toList) := by
  rw [OwnAttempt.goOn, entered]

theorem Entered.goOn (entered : Entered attempt) : Entered (attempt.goOn event enters) := by
  obtain ⟨later, since⟩ := Option.isSome_iff_exists.mp entered
  rw [Entered, goOn_entered event enters since]
  rfl

theorem Addressed.goOn (addressed : Addressed attempt) :
    Addressed (attempt.goOn event enters) := by
  obtain ⟨later, since, online⟩ := addressed
  exact ⟨_, goOn_entered event enters since, List.mem_append_left _ online⟩

theorem OffLink.goOn (lost : OffLink attempt) : OffLink (attempt.goOn event enters) :=
  lost.append event.toList

theorem goOn_enters (attempt : OwnAttempt) : Entered (attempt.goOn event true) := by
  unfold Entered OwnAttempt.goOn
  cases attempt.sinceEntry <;> rfl

end

theorem enters_event {portal : Portal} {action : PortalAction}
    (enters : portal.enters index action = true) : portal.linkEvent action = some .enter := by
  unfold Portal.enters at enters
  split at enters
  case h_2 => cases enters
  split at enters
  case h_2 => cases enters
  rename_i pc serving
  simp only [Portal.linkEvent, linkEvent, pc]

/-- Where the attempt has come to count, the write of CONNECTING is among its events. -/
theorem entry_split {attempt : OwnAttempt} {later : List LinkEvent}
    (own : ownAttempt index trace = some attempt) (since : attempt.sinceEntry = some later) :
    ∃ front, attempt.events = front ++ .enter :: later := by
  induction trace using List.reverseRecOn generalizing attempt later with
  | nil => cases own
  | append_singleton trace taken ih =>
      cases stages : taken.1.stages index taken.2 with
      | some credentials =>
          rw [ownAttempt_staged stages] at own
          cases own
          cases since
      | none =>
          rw [ownAttempt_goes_on stages] at own
          obtain ⟨before, was, rfl⟩ := Option.map_eq_some_iff.mp own
          cases entered : before.sinceEntry with
          | some earlier =>
              obtain ⟨front, split⟩ := ih was entered
              rw [goOn_entered _ _ entered] at since
              cases since
              exact ⟨front, by rw [OwnAttempt.goOn, split, List.append_assoc, List.cons_append]⟩
          | none =>
              simp only [OwnAttempt.goOn, entered] at since
              split at since <;> cases since
              rename_i enters
              refine ⟨before.events, ?_⟩
              simp only [OwnAttempt.goOn, enters_event enters, Option.toList_some]

theorem Told.goes_on {address : IpAddr} (told : Told trace address) :
    Told (trace ++ [taken]) address := by
  obtain ⟨front, portal, chain, back, split, serving, last⟩ := told
  refine ⟨front, portal, chain, back ++ [taken], ?_, serving, last⟩
  rw [split, List.append_assoc, List.cons_append]

end

/-! What each chain has behind it -/

/-- The page shows an address that the device had when it answered a /dashready. -/
def Shown (trace : List (Portal × PortalAction)) (ip loc : Text) : Prop :=
  ∃ address : IpAddr, ip = address.chars ∧ loc = localName.toList ∧ Told trace address

def Chain.Holds (trace : List (Portal × PortalAction)) (index : Nat) : Chain → Prop
  | .sent (.save body) => ∃ form, (submissions trace)[index]? = some form ∧ body = form.body
  | .served .save | .form => True
  | .answered .save body =>
      ∃ reply ret, body = ascii (saveResponse ret reply) ∧
        ((∃ ssid pass isOpen, reply = .connect ssid pass isOpen) → ret = .ok →
          Tried trace index Entered)
  | .polling | .sent .status | .served .status => Tried trace index Entered
  | .answered .status body =>
      ∃ state address, body = statusReply state (ipText address) ∧ Tried trace index Entered ∧
        (state = .connected → address.isSome = true ∧ Tried trace index Addressed) ∧
        (state = .failed → Tried trace index OffLink)
  | .preparing | .retrying | .sent .dash | .served .dash | .ready => Tried trace index Addressed
  | .answered .dash body =>
      Tried trace index Addressed ∧ ∃ connected address,
        body = dashReply connected (ipText address) ∧
          (connected = true → ∃ given, address = some given ∧ Told trace given)
  | .complete ip loc => Tried trace index Addressed ∧ Shown trace ip loc
  | .failed => Tried trace index OffLink

theorem Shown.goes_on {trace : List (Portal × PortalAction)} {taken : Portal × PortalAction}
    {ip loc : Text} (shown : Shown trace ip loc) : Shown (trace ++ [taken]) ip loc := by
  obtain ⟨address, isIp, isLocal, told⟩ := shown
  exact ⟨address, isIp, isLocal, told.goes_on⟩

theorem Chain.Holds.goes_on {trace : List (Portal × PortalAction)} {taken : Portal × PortalAction}
    {index : Nat} {chain : Chain} (holds : chain.Holds trace index)
    (other : taken.1.stages index taken.2 = none) : chain.Holds (trace ++ [taken]) index := by
  have entered (tried : Tried trace index Entered) : Tried (trace ++ [taken]) index Entered :=
    tried.goes_on other (fun _ is => is.goOn _ _)
  have addressed (tried : Tried trace index Addressed) : Tried (trace ++ [taken]) index Addressed :=
    tried.goes_on other (fun _ is => is.goOn _ _)
  have offLink (tried : Tried trace index OffLink) : Tried (trace ++ [taken]) index OffLink :=
    tried.goes_on other (fun _ is => is.goOn _ _)
  cases chain with
  | sent request =>
      cases request with
      | save body =>
          obtain ⟨form, posted, is⟩ := holds
          exact ⟨form, submission_kept posted, is⟩
      | status => exact entered holds
      | dash => exact addressed holds
  | served call =>
      cases call with
      | save => exact trivial
      | status => exact entered holds
      | dash => exact addressed holds
  | answered call body =>
      cases call with
      | save =>
          obtain ⟨reply, ret, text, connects⟩ := holds
          exact ⟨reply, ret, text, fun is ok => entered (connects is ok)⟩
      | status =>
          obtain ⟨state, address, text, tried, connected, failed⟩ := holds
          exact ⟨state, address, text, entered tried,
            fun is => ⟨(connected is).1, addressed (connected is).2⟩, fun is => offLink (failed is)⟩
      | dash =>
          obtain ⟨tried, connected, address, text, told⟩ := holds
          refine ⟨addressed tried, connected, address, text, fun is => ?_⟩
          obtain ⟨given, known, telling⟩ := told is
          exact ⟨given, known, telling.goes_on⟩
  | polling => exact entered holds
  | preparing | retrying | ready => exact addressed holds
  | complete ip loc => exact ⟨addressed holds.1, holds.2.goes_on⟩
  | failed => exact offLink holds
  | form => exact trivial

/-- The place of connect_sta in the handler of a save. -/
def SavePlace (trace : List (Portal × PortalAction)) (index : Nat) (ssid pass : CString)
    (isOpen : Bool) (ret : EspErr) : HttpdPc → Prop
  | .saveAccepted given word isFree | .connectLookup given word isFree
  | .connectStage given word isFree _ => given = ssid ∧ word = pass ∧ isFree = isOpen
  | .connectAlign _ _ | .connectEnter _ => Tried trace index (fun _ => True)
  | .connectConfigure _ | .connectLaunch => Tried trace index Entered
  | .idle => ret = .ok → Tried trace index Entered
  | _ => False

def Handler.call : Handler → Call
  | .save _ _ => .save
  | .status => .status
  | .dash _ => .dash

/-- The request in service: what it has read, and where its chain is. -/
structure Serving.Holds (trace : List (Portal × PortalAction)) (portal : Portal)
    (serving : Serving) : Prop where
  known : serving.handler = .status ∨ serving.handler = .dash true →
    (lastAddress trace).isSome = true
  waits : ∀ index, serving.chain = some index →
    portal.chains[index]? = some (.served serving.handler.call)
  online : ∀ index, serving.chain = some index → serving.handler = .status →
    Tried trace index Addressed
  saves : ∀ index reply ret, serving.chain = some index → serving.handler = .save reply ret →
    ∃ form ssid pass isOpen, (submissions trace)[index]? = some form ∧
      reply = .connect ssid pass isOpen ∧ FormTaken trace index form ssid pass isOpen ∧
      SavePlace trace index ssid pass isOpen ret portal.system.httpd

structure PortalInv (trace : List (Portal × PortalAction)) (portal : Portal) : Prop where
  address : portal.ip = ipText (lastAddress trace)
  known : portal.assigning = true ∨ portal.system.device.state = .connected →
    (lastAddress trace).isSome = true
  link : ∀ index attempt, ownAttempt index trace = some attempt →
    ∃ view : LinkView, view.retries = 0 ∧
      portal.system.device.linkView = view.afterAll attempt.events
  submitted : (submissions trace).length = portal.chains.length
  chains : ∀ (index : Nat) (chain : Chain), portal.chains[index]? = some chain →
    chain.Holds trace index
  serving : ∀ serving, portal.serving = some serving → serving.Holds trace portal
  page : ∀ index : Nat, portal.chains[index]? = some .ready →
    Shown trace portal.pageIp portal.pageLocal

/-! What the page makes of a reply -/

section
variable (portal : Portal) (index : Nat)

theorem deliver_status (state : MgrState) (address : Option IpAddr) :
    portal.deliver index .status (statusReply state (ipText address)) =
      portal.setChain index
        (if state = .connected then .preparing
        else if state = .failed then .failed
        else .polling) := by
  rw [Portal.deliver, read_statusReply]
  cases state <;> rfl

theorem deliver_dash_waiting (address : Option IpAddr) :
    portal.deliver index .dash (dashReply false (ipText address)) =
      portal.setChain index .retrying := by
  rw [Portal.deliver, read_dashReply]
  rfl

theorem deliver_dash_ready (address : IpAddr) :
    portal.deliver index .dash (dashReply true (ipText (some address))) =
      { portal.setChain index .ready with
        pageIp := address.chars, pageLocal := localName.toList } := by
  have text (other : Text) : orText (some (.string address.chars)) other = address.chars := by
    cases shape : address.chars with
    | nil => exact absurd shape address.chars_ne_nil
    | cons char rest => rfl
  have loc (other : Text) : orText (some (.string localName.toList)) other = localName.toList := by
    rw [localName]
    rfl
  have ip : (dashValue true (some address)).member "ip".toList = some (.string address.chars) := rfl
  have label : (dashValue true (some address)).member "local".toList =
      some (.string localName.toList) := rfl
  have ready : Json.truthy ((dashValue true (some address)).member "ready".toList) = true := rfl
  rw [Portal.deliver, read_dashReply]
  simp only [ready, if_true, ip, label, text, loc]

/-- The page polls on after one of the five texts of a save only. -/
theorem deliver_save (reply : SaveReply) (ret : EspErr) :
    portal.deliver index .save (ascii (saveResponse ret reply)) =
        portal.setChain index .polling ∧
        (∃ ssid pass isOpen, reply = .connect ssid pass isOpen) ∧ ret = .ok ∨
      portal.deliver index .save (ascii (saveResponse ret reply)) =
        portal.setChain index .form := by
  have other (text : String)
      (ends : (Json.read (utf8Reading.text (ascii text))).any (fun d =>
        isText (d.member "status".toList) "connecting") = false) :
      portal.deliver index .save (ascii text) = portal.setChain index .form := by
    unfold Portal.deliver
    cases read : Json.read (utf8Reading.text (ascii text)) with
    | none => rfl
    | some d =>
        rw [read, Option.any_some] at ends
        simp only [ends]
        rfl
  cases reply with
  | busy | emptyBody | ssidRequired =>
      rw [saveResponse]
      exact .inr (other _ (by decide +kernel))
  | connect ssid pass isOpen =>
      by_cases ok : ret = .ok
      · subst ok
        refine .inl ⟨?_, ⟨ssid, pass, isOpen, rfl⟩, rfl⟩
        have goesOn : (Json.read (utf8Reading.text
            (ascii (saveResponse .ok (.connect ssid pass isOpen))))).any (fun d =>
              isText (d.member "status".toList) "connecting") = true := by
          rw [saveResponse, if_pos rfl]
          decide +kernel
        unfold Portal.deliver
        cases read : Json.read (utf8Reading.text
            (ascii (saveResponse .ok (.connect ssid pass isOpen)))) with
        | none =>
            rw [read] at goesOn
            cases goesOn
        | some d =>
            rw [read, Option.any_some] at goesOn
            simp only [goesOn]
            rfl
      · rw [saveResponse, if_neg ok]
        exact .inr (other _ (by decide +kernel))

end

/-! A step of the page or of a handler -/

def PortalAction.isPage : PortalAction → Bool
  | .arrive _ _ | .respond | .deliver _ | .reject _ | .timer _ => true
  | _ => false

section
variable {trace : List (Portal × PortalAction)} {portal next : Portal} {action : PortalAction}

theorem page_quiet (portal : Portal) (isPage : action.isPage = true) (index : Nat) :
    portal.stages index action = none ∧ portal.linkEvent action = none ∧
      portal.enters index action = false ∧ submission action = none := by
  cases action with
  | device | assign | submit => cases isPage
  | arrive | respond | deliver | reject | timer => exact ⟨rfl, rfl, rfl, rfl⟩

theorem page_history (trace : List (Portal × PortalAction)) (portal : Portal)
    (isPage : action.isPage = true) :
    submissions (trace ++ [(portal, action)]) = submissions trace ∧
      lastAddress (trace ++ [(portal, action)]) = lastAddress trace ∧
      ∀ index, ownAttempt index (trace ++ [(portal, action)]) = ownAttempt index trace := by
  refine ⟨?_, ?_, fun index => ?_⟩
  · rw [submissions_snoc, (page_quiet portal isPage 0).2.2.2]
    exact List.append_nil _
  · rw [lastAddress_snoc]
    cases action with
    | device | assign | submit => cases isPage
    | arrive | respond | deliver | reject | timer => rfl
  · obtain ⟨other, noEvent, outside, -⟩ := page_quiet portal isPage index
    exact ownAttempt_idle other noEvent outside

/-- The part of the invariant that such a step has to prove anew. -/
structure PageKept (trace : List (Portal × PortalAction)) (portal next : Portal) : Prop where
  ip : next.ip = portal.ip
  assigning : next.assigning = portal.assigning
  link : next.system.device.linkView = portal.system.device.linkView
  count : next.chains.length = portal.chains.length
  chains : ∀ (index : Nat) (chain : Chain), next.chains[index]? = some chain →
    chain.Holds trace index
  serving : ∀ serving, next.serving = some serving → serving.Holds trace next
  page : ∀ index : Nat, next.chains[index]? = some .ready →
    Shown trace next.pageIp next.pageLocal

theorem PortalInv.page_step (inv : PortalInv trace portal) (isPage : action.isPage = true)
    (kept : PageKept (trace ++ [(portal, action)]) portal next) :
    PortalInv (trace ++ [(portal, action)]) next := by
  obtain ⟨bodies, last, own⟩ := page_history trace portal isPage
  have state : next.system.device.state = portal.system.device.state :=
    congrArg LinkView.state kept.link
  constructor
  case address => rw [last, kept.ip, inv.address]
  case known =>
    rw [last, kept.assigning, state]
    exact inv.known
  case link =>
    intro index attempt is
    rw [own] at is
    rw [kept.link]
    exact inv.link index attempt is
  case submitted => rw [bodies, kept.count, inv.submitted]
  case chains => exact kept.chains
  case serving => exact kept.serving
  case page => exact kept.page

theorem PortalInv.set_chain (inv : PortalInv trace portal) (isPage : action.isPage = true)
    {index : Nat} {chain : Chain} (new : chain.Holds (trace ++ [(portal, action)]) index)
    (other : Nat) (found : Chain)
    (at_other : (portal.chains.set index chain)[other]? = some found) :
    found.Holds (trace ++ [(portal, action)]) other := by
  rw [List.getElem?_set] at at_other
  split at at_other
  · rename_i same
    subst same
    split at at_other <;> cases at_other
    exact new
  · exact (inv.chains other found at_other).goes_on (page_quiet portal isPage other).1

theorem set_ready {chains : List Chain} {index : Nat} {chain : Chain} (notReady : chain ≠ .ready)
    {other : Nat} (is : (chains.set index chain)[other]? = some .ready) :
    chains[other]? = some .ready := by
  rw [List.getElem?_set] at is
  split at is
  · split at is <;> cases is
    exact absurd rfl notReady
  · exact is

theorem SavePlace.goes_on {index : Nat} {ssid pass : CString} {isOpen : Bool} {ret : EspErr}
    {pc : HttpdPc} (place : SavePlace trace index ssid pass isOpen ret pc)
    (other : portal.stages index action = none) :
    SavePlace (trace ++ [(portal, action)]) index ssid pass isOpen ret pc := by
  have entered (tried : Tried trace index Entered) :
      Tried (trace ++ [(portal, action)]) index Entered :=
    tried.goes_on other (fun _ is => is.goOn _ _)
  have staged (tried : Tried trace index (fun _ => True)) :
      Tried (trace ++ [(portal, action)]) index (fun _ => True) :=
    tried.goes_on other (fun _ _ => trivial)
  cases pc with
  | connectAlign | connectEnter => exact staged place
  | connectConfigure | connectLaunch => exact entered place
  | idle => exact fun ok => entered (place ok)
  | _ => exact place

theorem Serving.Holds.goes_on {serving : Serving} (holds : serving.Holds trace portal)
    (known : (lastAddress trace).isSome = true →
      (lastAddress (trace ++ [(portal, action)])).isSome = true)
    (waits : ∀ index, serving.chain = some index →
      portal.chains[index]? = some (.served serving.handler.call) →
        next.chains[index]? = some (.served serving.handler.call))
    (other : ∀ index, serving.chain = some index → portal.stages index action = none)
    (httpd : next.system.httpd = portal.system.httpd) :
    serving.Holds (trace ++ [(portal, action)]) next where
  known is := known (holds.known is)
  waits index is := waits index is (holds.waits index is)
  online index is handler :=
    (holds.online index is handler).goes_on (other index is) (fun _ on => on.goOn _ _)
  saves index reply ret is handler := by
    obtain ⟨form, ssid, pass, isOpen, posted, isReply, received, place⟩ :=
      holds.saves index reply ret is handler
    refine ⟨form, ssid, pass, isOpen, submission_kept posted, isReply, received.goes_on, ?_⟩
    rw [httpd]
    exact place.goes_on (other index is)

theorem Serving.Holds.page_step {serving : Serving} (holds : serving.Holds trace portal)
    (isPage : action.isPage = true) (httpd : next.system.httpd = portal.system.httpd)
    {index : Nat} {old chain : Chain} (was : portal.chains[index]? = some old)
    (notServed : ∀ call, old ≠ .served call)
    (chains : next.chains = portal.chains.set index chain) :
    serving.Holds (trace ++ [(portal, action)]) next := by
  obtain ⟨-, last, -⟩ := page_history trace portal isPage
  apply holds.goes_on (by rw [last]; exact id) _
    (fun index _ => (page_quiet portal isPage index).1) httpd
  intro served _ waiting
  have apart : index ≠ served := by
    rintro rfl
    exact notServed _ (Option.some.inj (was.symm.trans waiting))
  rw [chains, List.getElem?_set_ne apart]
  exact waiting

theorem PortalInv.move (inv : PortalInv trace portal) (isPage : action.isPage = true)
    {index : Nat} {old chain : Chain} (was : portal.chains[index]? = some old)
    (notServed : ∀ call, old ≠ .served call) (notReady : chain ≠ .ready)
    (new : chain.Holds (trace ++ [(portal, action)]) index) :
    PortalInv (trace ++ [(portal, action)]) (portal.setChain index chain) := by
  apply inv.page_step isPage
  constructor
  case ip | assigning | link => rfl
  case count => exact List.length_set
  case chains => exact inv.set_chain isPage new
  case serving =>
    intro serving is
    exact (inv.serving serving is).page_step isPage rfl was notServed rfl
  case page =>
    intro other ready
    exact (inv.page other (set_ready notReady ready)).goes_on

/-- A chain moves on to the request that is served from now on. -/
theorem PortalInv.serve (inv : PortalInv trace portal) (isPage : action.isPage = true)
    {index : Nat} {request : Request} (handler : Handler) (system : System)
    (was : portal.chains[index]? = some (.sent request))
    (link : system.device.linkView = portal.system.device.linkView)
    (new : (Chain.served handler.call).Holds (trace ++ [(portal, action)]) index)
    (known : handler = .status ∨ handler = .dash true → (lastAddress trace).isSome = true)
    (online : handler = .status → Tried (trace ++ [(portal, action)]) index Addressed)
    (saves : ∀ reply ret, handler = .save reply ret → ∃ form ssid pass isOpen,
      (submissions (trace ++ [(portal, action)]))[index]? = some form ∧
        reply = .connect ssid pass isOpen ∧
        FormTaken (trace ++ [(portal, action)]) index form ssid pass isOpen ∧
        SavePlace (trace ++ [(portal, action)]) index ssid pass isOpen ret system.httpd) :
    PortalInv (trace ++ [(portal, action)])
      { portal.setChain index (.served handler.call) with
        system := system, serving := some ⟨some index, handler⟩ } := by
  obtain ⟨-, last, -⟩ := page_history trace portal isPage
  have notReady : Chain.served handler.call ≠ .ready := nofun
  have inside : index < portal.chains.length := (List.getElem?_eq_some_iff.mp was).1
  apply inv.page_step isPage
  constructor
  case ip | assigning => rfl
  case link => exact link
  case count => exact List.length_set
  case chains => exact inv.set_chain isPage new
  case serving =>
    rintro serving ⟨⟩
    constructor
    case known => exact last ▸ known
    case waits =>
      rintro served ⟨⟩
      exact List.getElem?_set_self inside
    case online =>
      rintro served ⟨⟩ is
      exact online is
    case saves =>
      rintro served reply ret ⟨⟩ is
      exact saves reply ret is
  case page =>
    intro other ready
    exact (inv.page other (set_ready notReady ready)).goes_on

/-! The two ends of an attempt -/

theorem PortalInv.online (inv : PortalInv trace portal) {index : Nat}
    (tried : Tried trace index Entered) (connected : portal.system.device.state = .connected) :
    Tried trace index Addressed := by
  obtain ⟨form, attempt, posted, own, received, entered⟩ := tried
  obtain ⟨view, -, link⟩ := inv.link index attempt own
  obtain ⟨later, since⟩ := Option.isSome_iff_exists.mp entered
  obtain ⟨front, split⟩ := entry_split own since
  have entry : ((view.afterAll front).after .enter).state ≠ .connected := nofun
  have now : (((view.afterAll front).after .enter).afterAll later).state = .connected := by
    rw [split, LinkView.afterAll_append] at link
    exact link ▸ connected
  exact ⟨form, attempt, posted, own, received, later, since,
    LinkView.connected_cause entry now⟩

theorem PortalInv.offLink (inv : PortalInv trace portal) {index : Nat}
    (tried : Tried trace index Entered) (failed : portal.system.device.state = .failed) :
    Tried trace index OffLink := by
  obtain ⟨form, attempt, posted, own, received, entered⟩ := tried
  obtain ⟨view, fresh, link⟩ := inv.link index attempt own
  obtain ⟨later, since⟩ := Option.isSome_iff_exists.mp entered
  obtain ⟨front, split⟩ := entry_split own since
  refine ⟨form, attempt, posted, own, received, ?_⟩
  rw [split] at link
  rw [OffLink, split]
  exact LinkView.failed_cause fresh (link ▸ failed)

/-! The actions of the page -/

theorem PortalInv.timer (inv : PortalInv trace portal) {index : Nat}
    (taken : portalStep portal (.timer index) = some next) :
    PortalInv (trace ++ [(portal, .timer index)]) next := by
  obtain ⟨chain, was, moves⟩ := Option.bind_eq_some_iff.mp taken
  have holds : chain.Holds (trace ++ [(portal, .timer index)]) index :=
    (inv.chains index chain was).goes_on rfl
  cases chain with
  | polling | preparing | retrying =>
      cases moves
      exact inv.move rfl was nofun nofun holds
  | ready =>
      cases moves
      exact inv.move rfl was nofun nofun ⟨holds, (inv.page index was).goes_on⟩
  | sent | served | answered | complete | failed | form => cases moves

theorem PortalInv.deliver (inv : PortalInv trace portal) {index : Nat}
    (taken : portalStep portal (.deliver index) = some next) :
    PortalInv (trace ++ [(portal, .deliver index)]) next := by
  simp only [portalStep] at taken
  split at taken
  case h_2 => cases taken
  rename_i call body was
  cases taken
  have holds : (Chain.answered call body).Holds (trace ++ [(portal, .deliver index)]) index :=
    (inv.chains index _ was).goes_on rfl
  cases call with
  | save =>
      obtain ⟨reply, ret, rfl, connects⟩ := holds
      rcases deliver_save portal index reply ret with ⟨polls, connected, ok⟩ | ends
      · rw [polls]
        exact inv.move rfl was nofun nofun (connects connected ok)
      · rw [ends]
        exact inv.move rfl was nofun nofun trivial
  | status =>
      obtain ⟨state, address, rfl, entered, connected, failed⟩ := holds
      rw [deliver_status]
      split
      · rename_i is
        exact inv.move rfl was nofun nofun (connected is).2
      · split
        · rename_i is
          exact inv.move rfl was nofun nofun (failed is)
        · exact inv.move rfl was nofun nofun entered
  | dash =>
      obtain ⟨addressed, connected, address, rfl, told⟩ := holds
      cases connected with
      | false =>
          rw [deliver_dash_waiting]
          exact inv.move rfl was nofun nofun addressed
      | true =>
          obtain ⟨given, rfl, telling⟩ := told rfl
          rw [deliver_dash_ready]
          apply inv.page_step rfl
          constructor
          case ip | assigning | link => rfl
          case count => exact List.length_set
          case chains => exact inv.set_chain rfl addressed
          case serving =>
            intro serving is
            exact (inv.serving serving is).page_step rfl rfl was nofun rfl
          case page => exact fun _ _ => ⟨given, rfl, rfl, telling⟩

theorem PortalInv.reject (inv : PortalInv trace portal) {index : Nat}
    (taken : portalStep portal (.reject index) = some next) :
    PortalInv (trace ++ [(portal, .reject index)]) next := by
  obtain ⟨chain, was, moves⟩ := Option.bind_eq_some_iff.mp taken
  have holds : chain.Holds (trace ++ [(portal, .reject index)]) index :=
    (inv.chains index chain was).goes_on rfl
  cases chain with
  | sent request =>
      cases moves
      apply inv.move rfl was nofun (by cases request <;> exact nofun)
      cases request with
      | save => exact trivial
      | status | dash => exact holds
  | answered call body =>
      cases moves
      apply inv.move rfl was nofun (by cases call <;> exact nofun)
      cases call with
      | save => exact trivial
      | status => exact holds.choose_spec.choose_spec.2.1
      | dash => exact holds.1
  | served call =>
      cases moves
      have rejected : call.rejected.Holds (trace ++ [(portal, .reject index)]) index := by
        cases call with
        | save => exact trivial
        | status | dash => exact holds
      have notReady : call.rejected ≠ .ready := by cases call <;> exact nofun
      apply inv.page_step rfl
      constructor
      case ip | assigning | link => rfl
      case count => exact List.length_set
      case chains => exact inv.set_chain rfl rejected
      case serving =>
        intro serving is
        obtain ⟨before, isServing, rfl⟩ := Option.map_eq_some_iff.mp is
        have last : lastAddress (trace ++ [(portal, .reject index)]) = lastAddress trace :=
          (page_history trace portal rfl).2.1
        have goesOn : before.Holds (trace ++ [(portal, .reject index)]) portal :=
          (inv.serving before isServing).goes_on (by rw [last]; exact id)
            (fun _ _ waiting => waiting) (fun _ _ => rfl) rfl
        split
        · exact ⟨goesOn.known, nofun, nofun, nofun⟩
        · rename_i apart
          refine ⟨goesOn.known, fun served is => ?_, goesOn.online, goesOn.saves⟩
          have different : index ≠ served := fun same => apart (same ▸ is)
          exact (List.getElem?_set_ne different).trans (goesOn.waits served is)
      case page =>
        intro other ready
        exact (inv.page other (set_ready notReady ready)).goes_on
  | polling | preparing | retrying | ready | complete | failed | form => cases moves

theorem postSave_cases {system after : System} {ssid pass : CString} {isOpen : Bool}
    (free : ¬ (system.device.state = .connecting ∨ system.device.state = .connected))
    (taken : step system (.postSave ssid pass isOpen) = some after) :
    after = { system with httpd := .saveAccepted ssid pass isOpen } := by
  simp only [step, if_neg free] at taken
  split at taken <;> cases taken
  rfl

theorem saveHandler_connect {state : MgrState} {received : Bytes} {ssid pass : CString}
    {isOpen : Bool} (handled : saveHandler state received = .connect ssid pass isOpen) :
    ¬ (state = .connecting ∨ state = .connected) := by
  intro busy
  rw [saveHandler, if_pos busy] at handled
  cases handled

theorem saveHandler_failed {state : MgrState}
    (free : ¬ (state = .connecting ∨ state = .connected)) :
    saveHandler state [] = .emptyBody := by
  rw [saveHandler, if_neg free, if_pos rfl]

theorem PortalInv.arrive (inv : PortalInv trace portal) {index : Nat} {offered : Option Nat}
    (taken : portalStep portal (.arrive index offered) = some next) :
    PortalInv (trace ++ [(portal, .arrive index offered)]) next := by
  simp only [portalStep] at taken
  split at taken
  case isFalse => cases taken
  split at taken
  case h_2 => cases taken
  rename_i request was
  have holds : (Chain.sent request).Holds (trace ++ [(portal, .arrive index offered)]) index :=
    (inv.chains index _ was).goes_on rfl
  cases request with
  | save body =>
      have refused (reply : SaveReply)
          (others : ∀ ssid pass isOpen, reply ≠ .connect ssid pass isOpen) :
          PortalInv (trace ++ [(portal, .arrive index offered)])
            (portal.setChain index (.answered .save (ascii (saveResponse .ok reply)))) := by
        refine inv.move rfl was nofun nofun ⟨reply, .ok, rfl, ?_⟩
        rintro ⟨ssid, pass, isOpen, is⟩
        exact absurd is (others ssid pass isOpen)
      cases handled : saveHandler portal.system.device.state
          (offered.elim [] (receivePart · body)) with
      | busy | emptyBody | ssidRequired =>
          simp only [Portal.arrive, handled, Option.some.injEq] at taken
          subst taken
          exact refused _ nofun
      | connect ssid pass isOpen =>
          simp only [Portal.arrive, handled] at taken
          obtain ⟨after, accepted, rfl⟩ := Option.map_eq_some_iff.mp taken
          obtain rfl := postSave_cases (saveHandler_connect handled) accepted
          refine inv.serve rfl (.save (.connect ssid pass isOpen) .invalidState) _ was rfl trivial
            (by simp) nofun ?_
          obtain ⟨form, posted, rfl⟩ := holds
          rintro reply ret ⟨⟩
          cases offered with
          | none => cases (saveHandler_failed (saveHandler_connect handled)).symm.trans handled
          | some count =>
              exact ⟨form, ssid, pass, isOpen, posted, rfl,
                ⟨portal, count, by simp, was, handled⟩, rfl, rfl, rfl⟩
  | status =>
      have before : Tried trace index Entered := inv.chains index _ was
      simp only [Portal.arrive] at taken
      split at taken
      · rename_i connected
        cases taken
        exact inv.serve rfl .status _ was rfl holds (fun _ => inv.known (.inr connected))
          (fun _ => (inv.online before connected).idle rfl rfl rfl) nofun
      · rename_i notConnected
        cases taken
        refine inv.move rfl was nofun nofun ⟨_, lastAddress trace, ?_, holds,
          fun is => absurd is notConnected, fun is => (inv.offLink before is).idle rfl rfl rfl⟩
        rw [inv.address]
  | dash =>
      cases taken
      refine inv.serve rfl (.dash _) _ was rfl holds ?_ nofun nofun
      rintro (is | is)
      · cases is
      · exact inv.known (.inr (by simpa using is))

theorem PortalInv.respond (inv : PortalInv trace portal)
    (taken : portalStep portal .respond = some next) :
    PortalInv (trace ++ [(portal, .respond)]) next := by
  have answered (chain : Option Nat) (call : Call) (body : Bytes)
      (new : ∀ index, chain = some index →
        (Chain.answered call body).Holds (trace ++ [(portal, .respond)]) index) :
      PortalInv (trace ++ [(portal, .respond)]) (portal.answer chain call body) := by
    apply inv.page_step rfl
    constructor
    case ip | assigning | link => rfl
    case count => cases chain <;> simp [Portal.answer]
    case chains =>
      cases chain with
      | none => exact fun other found at_other =>
          (inv.chains other found at_other).goes_on (page_quiet portal rfl other).1
      | some index => exact inv.set_chain rfl (new index rfl)
    case serving => exact nofun
    case page =>
      intro other ready
      cases chain with
      | none => exact (inv.page other ready).goes_on
      | some index =>
          have notReady : Chain.answered call body ≠ .ready := nofun
          exact (inv.page other (set_ready notReady ready)).goes_on
  have later {gone : OwnAttempt → Prop} {index : Nat} (tried : Tried trace index gone) :
      Tried (trace ++ [(portal, .respond)]) index gone := tried.idle rfl rfl rfl
  simp only [portalStep, Portal.respond] at taken
  split at taken
  · cases taken
  · rename_i chain reply ret isServing
    have holds := inv.serving _ isServing
    split at taken <;> cases taken
    rename_i idle
    apply answered
    intro index is
    obtain ⟨form, ssid, pass, isOpen, posted, isReply, received, place⟩ :=
      holds.saves index reply ret is rfl
    rw [idle] at place
    exact ⟨reply, ret, rfl, fun _ ok => later (place ok)⟩
  · rename_i chain isServing
    have holds := inv.serving _ isServing
    cases taken
    apply answered
    intro index is
    have served := inv.chains index _ (holds.waits index is)
    exact ⟨.connected, lastAddress trace, by rw [inv.address], later served,
      fun _ => ⟨holds.known (.inl rfl), later (holds.online index is rfl)⟩, nofun⟩
  · rename_i chain connected isServing
    have holds := inv.serving _ isServing
    cases taken
    apply answered
    intro index is
    have served := inv.chains index _ (holds.waits index is)
    refine ⟨later served, connected, lastAddress trace, by rw [inv.address], fun ready => ?_⟩
    subst ready
    obtain ⟨given, last⟩ := Option.isSome_iff_exists.mp (holds.known (.inr rfl))
    exact ⟨given, last, trace, portal, chain, [], rfl, isServing, last⟩

/-! The actions of the device -/

theorem stages_some {index : Nat} {form : CString × CString × Bool}
    (stages : portal.stages index action = some form) :
    ∃ ret pointer reply kept, action = .device (.httpd ret) ∧
      portal.system.httpd = .connectStage form.1 form.2.1 form.2.2 pointer ∧
      portal.serving = some ⟨some index, .save reply kept⟩ := by
  unfold Portal.stages at stages
  split at stages
  case h_2 => cases stages
  rename_i ret
  split at stages
  case h_2 => cases stages
  rename_i ssid pass isOpen pointer chain reply kept pc serving
  split at stages <;> cases stages
  rename_i same
  exact ⟨ret, pointer, reply, kept, rfl, pc, same ▸ serving⟩

theorem PortalInv.chain_goes_on (inv : PortalInv trace portal) {index : Nat} {chain : Chain}
    (was : portal.chains[index]? = some chain) :
    chain.Holds (trace ++ [(portal, action)]) index := by
  cases stages : portal.stages index action with
  | none => exact (inv.chains index chain was).goes_on stages
  | some form =>
      obtain ⟨_, _, reply, kept, -, -, serving⟩ := stages_some stages
      have waiting := (inv.serving _ serving).waits index rfl
      cases was.symm.trans waiting
      exact trivial

theorem PortalInv.link_goes_on (inv : PortalInv trace portal) {action : Action} {after : System}
    (taken : step portal.system action = some after) (index : Nat) (attempt : OwnAttempt)
    (own : ownAttempt index (trace ++ [(portal, .device action)]) = some attempt) :
    ∃ view : LinkView, view.retries = 0 ∧ after.device.linkView = view.afterAll attempt.events := by
  have moved := step_view taken
  cases stages : portal.stages index (.device action) with
  | some form =>
      obtain ⟨ret, pointer, _, _, is, pc, -⟩ := stages_some stages
      cases is
      rw [ownAttempt_staged stages] at own
      cases own
      refine ⟨after.device.linkView, ?_, rfl⟩
      rw [moved]
      simp only [linkEvent, pc]
      rfl
  | none =>
      rw [ownAttempt_goes_on stages] at own
      obtain ⟨before, was, rfl⟩ := Option.map_eq_some_iff.mp own
      obtain ⟨view, fresh, link⟩ := inv.link index before was
      refine ⟨view, fresh, ?_⟩
      rw [OwnAttempt.goOn, LinkView.afterAll_append, ← link, moved]
      show _ = LinkView.afterAll _ (linkEvent portal.system action).toList
      cases linkEvent portal.system action <;> rfl

/-- The link is CONNECTED by GOT_IP, or it was before. -/
theorem connected_comes {system after : System} {action : Action}
    (taken : step system action = some after) (connected : after.device.state = .connected) :
    (∃ outcome, action = .gotIp outcome) ∨
      (system.device.state = .connected ∧ linkEvent system action ≠ some .powerOn) := by
  have moved := step_view taken
  have now : after.device.linkView.state = .connected := connected
  cases is : linkEvent system action with
  | none =>
      rw [is] at moved
      exact .inr ⟨(congrArg LinkView.state moved).symm.trans now, nofun⟩
  | some event =>
      rw [is] at moved
      rw [moved] at now
      rcases LinkView.after_connected now with rfl | before
      · left
        cases action with
        | gotIp outcome => exact ⟨outcome, rfl⟩
        | httpd ret =>
            simp only [linkEvent] at is
            split at is <;> (try split at is) <;> cases is
        | main ret outcome =>
            simp only [linkEvent] at is
            split at is <;> (try split at is) <;> cases is
        | init flash | boot opens driver =>
            simp only [linkEvent] at is
            split at is <;> cases is
        | _ => cases is
      · refine .inr ⟨before, ?_⟩
        rintro ⟨⟩
        cases now

/-- connect_sta moves on in the request in service. -/
theorem SavePlace.httpd {index : Nat} {form : TypedForm} {ssid pass : CString} {isOpen : Bool}
    {reply : SaveReply} {kept ret : EspErr} {after : System}
    (place : SavePlace trace index ssid pass isOpen kept portal.system.httpd)
    (isServing : portal.serving = some ⟨some index, .save reply kept⟩)
    (posted : (submissions trace)[index]? = some form)
    (received : FormTaken trace index form ssid pass isOpen)
    (taken : step portal.system (.httpd ret) = some after)
    (on : linkEvent portal.system (.httpd ret) ≠ some .powerOn) :
    ∃ later, Serving.after portal.system (.httpd ret) ⟨some index, .save reply kept⟩ =
        ⟨some index, .save reply later⟩ ∧
      SavePlace (trace ++ [(portal, .device (.httpd ret))]) index ssid pass isOpen later
        after.httpd := by
  simp only [step, httpdStep] at taken
  have other (notStage : ∀ given word isFree pointer,
      portal.system.httpd ≠ .connectStage given word isFree pointer) :
      portal.stages index (.device (.httpd ret)) = none := by
    cases stages : portal.stages index (.device (.httpd ret)) with
    | none => rfl
    | some form =>
        obtain ⟨_, pointer, _, _, -, pc, -⟩ := stages_some stages
        exact absurd pc (notStage _ _ _ pointer)
  cases pc : portal.system.httpd with
  | saveAccepted given word isFree =>
      simp only [pc] at taken place
      refine ⟨_, by
        simp only [Serving.after, pc]
        rfl, ?_⟩
      split at taken <;> cases taken
      · exact place
      · rename_i declined
        rw [if_neg declined]
        intro accepted
        cases accepted
  | connectLookup given word isFree =>
      simp only [pc] at taken place
      cases taken
      exact ⟨kept, by simp only [Serving.after, pc], place⟩
  | connectStage given word isFree pointer =>
      simp only [pc] at taken place
      cases taken
      obtain ⟨rfl, rfl, rfl⟩ := place
      have stages : portal.stages index (.device (.httpd ret)) = some (given, word, isFree) := by
        simp only [Portal.stages, pc, isServing, if_true]
      exact ⟨kept, by simp only [Serving.after, pc], form, ⟨given, word, isFree, [], none⟩,
        submission_kept posted, ownAttempt_staged stages, received.goes_on, trivial⟩
  | connectAlign config pointer =>
      simp only [pc] at taken place
      cases taken
      have staged : Tried trace index (fun _ => True) := place
      have still : Tried (trace ++ [(portal, .device (.httpd ret))]) index (fun _ => True) :=
        staged.goes_on (other (by simp [pc])) (fun _ _ => trivial)
      exact ⟨kept, by simp only [Serving.after, pc], still⟩
  | connectEnter config =>
      simp only [pc] at taken place
      cases taken
      have staged : Tried trace index (fun _ => True) := place
      refine ⟨kept, by simp only [Serving.after, pc], ?_⟩
      refine staged.goes_on (other (by simp [pc])) (fun attempt _ => ?_)
      have entering : portal.enters index (.device (.httpd ret)) = true := by
        simp only [Portal.enters, pc, isServing, beq_self_eq_true]
      rw [entering]
      exact goOn_enters _ attempt
  | connectConfigure config =>
      simp only [pc] at taken place
      split at taken <;> cases taken
      · refine ⟨kept, by simp only [Serving.after, pc], ?_⟩
        exact Tried.goes_on place (other (by simp [pc])) (fun _ is => is.goOn _ _)
      · rename_i failed
        exact absurd (by simp only [linkEvent, pc, if_neg failed]) on
  | connectLaunch =>
      simp only [pc] at taken place
      have entered : Tried (trace ++ [(portal, .device (.httpd ret))]) index Entered :=
        Tried.goes_on place (other (by simp [pc])) (fun _ is => is.goOn _ _)
      refine ⟨kept, by simp only [Serving.after, pc], ?_⟩
      split at taken <;> (cases taken; exact fun _ => entered)
  | idle =>
      simp only [pc] at taken
      cases taken
  | shutdownTestActive | shutdownTestScheduled | shutdownMark | shutdownSpawn | shutdownUnmark
  | scanMark | scanDriver =>
      rw [pc] at place
      exact place.elim

theorem after_save (system : System) (action : Action) (chain : Option Nat) (reply : SaveReply)
    (kept : EspErr) : ∃ later, Serving.after system action ⟨chain, .save reply kept⟩ =
      ⟨chain, .save reply later⟩ := by
  unfold Serving.after
  split
  · rename_i is
    cases is
    exact ⟨_, rfl⟩
  · exact ⟨kept, rfl⟩

theorem after_other {system : System} {action : Action} {serving : Serving}
    (notSave : ∀ reply kept, serving.handler ≠ .save reply kept) :
    Serving.after system action serving = serving := by
  unfold Serving.after
  split
  · rename_i is
    exact absurd is (notSave _ _)
  · rfl

theorem stages_none {index : Nat} {serving : Serving} (isServing : portal.serving = some serving)
    (notSave : ∀ reply kept, serving ≠ ⟨some index, .save reply kept⟩) :
    portal.stages index action = none := by
  cases stages : portal.stages index action with
  | none => rfl
  | some form =>
      obtain ⟨_, _, reply, kept, -, -, saving⟩ := stages_some stages
      exact absurd (Option.some.inj (isServing.symm.trans saving)) (notSave reply kept)

/-- The request in service survives a step of the httpd task that is no restart. -/
theorem PortalInv.serving_httpd (inv : PortalInv trace portal) {ret : EspErr} {after : System}
    (taken : step portal.system (.httpd ret) = some after)
    (on : linkEvent portal.system (.httpd ret) ≠ some .powerOn) {serving : Serving}
    (isServing : portal.serving = some serving) (system : next.system = after)
    (chains : next.chains = portal.chains) :
    (Serving.after portal.system (.httpd ret) serving).Holds
      (trace ++ [(portal, .device (.httpd ret))]) next := by
  have holds := inv.serving serving isServing
  have last : lastAddress (trace ++ [(portal, .device (.httpd ret))]) = lastAddress trace := by
    rw [lastAddress_snoc]
    exact if_neg on
  obtain ⟨chain, handler⟩ := serving
  cases handler with
  | status | dash connected =>
      rw [after_other]
      · constructor
        case known => exact last ▸ holds.known
        case waits => exact chains ▸ holds.waits
        case online =>
          exact fun index is handler => (holds.online index is handler).goes_on
            (stages_none isServing (by simp)) (fun _ on => on.goOn _ _)
        case saves => rintro _ _ _ _ ⟨⟩
      · exact nofun
  | save reply kept =>
      cases chain with
      | none =>
          obtain ⟨later, is⟩ := after_save portal.system (.httpd ret) none reply kept
          rw [is]
          exact ⟨by simp, nofun, nofun, nofun⟩
      | some index =>
          obtain ⟨form, ssid, pass, isOpen, posted, isReply, received, place⟩ :=
            holds.saves index reply kept rfl rfl
          obtain ⟨later, is, placed⟩ := place.httpd isServing posted received taken on
          rw [is]
          refine ⟨by simp, ?_, nofun, ?_⟩
          · rintro served ⟨⟩
            exact chains ▸ holds.waits index rfl
          · rintro served given ret ⟨⟩ ⟨⟩
            exact ⟨form, ssid, pass, isOpen, submission_kept posted, isReply,
              received.goes_on, system ▸ placed⟩

/-- So it does with any other step of the device. -/
theorem PortalInv.serving_device (inv : PortalInv trace portal) {action : Action} {after : System}
    (taken : step portal.system action = some after) (permitted : portal.permits action = true)
    (on : linkEvent portal.system action ≠ some .powerOn) {serving : Serving}
    (isServing : portal.serving = some serving) (system : next.system = after)
    (chains : next.chains = portal.chains) :
    (Serving.after portal.system action serving).Holds (trace ++ [(portal, .device action)])
      next := by
  by_cases isHttpd : ∃ ret, action = .httpd ret
  · obtain ⟨ret, rfl⟩ := isHttpd
    exact inv.serving_httpd taken on isServing system chains
  · have notHttpd (ret : EspErr) : action ≠ .httpd ret := fun is => isHttpd ⟨ret, is⟩
    have last : lastAddress (trace ++ [(portal, .device action)]) = lastAddress trace := by
      rw [lastAddress_snoc]
      exact if_neg on
    have same : Serving.after portal.system action serving = serving := by
      unfold Serving.after
      split
      · exact absurd rfl (notHttpd _)
      · rfl
    have noRequest : action.isRequest = false := by
      cases action with
      | getRoot | postApShutdown | postSave | getScan =>
          rw [Portal.permits, isServing] at permitted
          cases permitted
      | _ => rfl
    have quiet (index : Nat) : portal.stages index (.device action) = none := by
      cases stages : portal.stages index (.device action) with
      | none => rfl
      | some form =>
          obtain ⟨ret, _, _, _, is, -, -⟩ := stages_some stages
          cases is
          exact absurd rfl (notHttpd ret)
    have httpd := step_httpd taken notHttpd noRequest on
    rw [same]
    apply (inv.serving serving isServing).goes_on _ _ (fun index _ => quiet index) (system ▸ httpd)
    · rw [last]
      exact id
    · exact fun _ _ waiting => chains ▸ waiting

theorem PortalInv.device (inv : PortalInv trace portal) {action : Action}
    (taken : portalStep portal (.device action) = some next) :
    PortalInv (trace ++ [(portal, .device action)]) next := by
  simp only [portalStep] at taken
  split at taken
  case isFalse => cases taken
  rename_i permitted
  obtain ⟨after, moved, rfl⟩ := Option.map_eq_some_iff.mp taken
  have bodies : submissions (trace ++ [(portal, .device action)]) = submissions trace := by
    rw [submissions_snoc]
    exact List.append_nil _
  have address : lastAddress (trace ++ [(portal, .device action)]) =
      if linkEvent portal.system action = some .powerOn then none else lastAddress trace := by
    rw [lastAddress_snoc]
    rfl
  by_cases restarted : linkEvent portal.system action = some .powerOn
  · rw [if_pos restarted] at address
    rw [Portal.afterDevice, if_pos restarted]
    constructor
    case address => rw [address]; rfl
    case known =>
      rintro (assigning | connected)
      · cases assigning
      · rcases connected_comes moved connected with ⟨outcome, rfl⟩ | ⟨-, on⟩
        · cases restarted
        · exact absurd restarted on
    case link => exact inv.link_goes_on moved
    case submitted => exact bodies ▸ inv.submitted
    case chains => exact fun _ _ was => inv.chain_goes_on was
    case serving => exact nofun
    case page => exact fun index ready => (inv.page index ready).goes_on
  · rw [if_neg restarted] at address
    rw [Portal.afterDevice, if_neg restarted]
    constructor
    case address => exact address ▸ inv.address
    case known =>
      rw [address]
      rintro (assigning | connected)
      · exact inv.known (.inl (Bool.and_eq_true_iff.mp assigning).1)
      · rcases connected_comes moved connected with ⟨outcome, rfl⟩ | ⟨before, -⟩
        · exact inv.known (.inl permitted)
        · exact inv.known (.inr before)
    case link => exact inv.link_goes_on moved
    case submitted => exact bodies ▸ inv.submitted
    case chains => exact fun _ _ was => inv.chain_goes_on was
    case serving =>
      intro serving is
      obtain ⟨before, isServing, rfl⟩ := Option.map_eq_some_iff.mp is
      exact inv.serving_device moved permitted restarted isServing rfl rfl
    case page => exact fun index ready => (inv.page index ready).goes_on

theorem PortalInv.assign (inv : PortalInv trace portal) {address : IpAddr}
    (taken : portalStep portal (.assign address) = some next) :
    PortalInv (trace ++ [(portal, .assign address)]) next := by
  simp only [portalStep] at taken
  split at taken <;> cases taken
  have last : lastAddress (trace ++ [(portal, .assign address)]) = some address :=
    lastAddress_snoc trace _
  constructor
  case address => rw [last]
  case known => exact fun _ => by rw [last]; rfl
  case link =>
    intro index attempt own
    have same : ownAttempt index (trace ++ [(portal, .assign address)]) =
        ownAttempt index trace := ownAttempt_idle rfl rfl rfl
    exact inv.link index attempt (same ▸ own)
  case submitted =>
    rw [submissions_snoc]
    exact (congrArg List.length (List.append_nil _)).trans inv.submitted
  case chains => exact fun _ _ was => inv.chain_goes_on was
  case serving =>
    intro serving is
    refine (inv.serving serving is).goes_on (fun _ => ?_) ?_ ?_ ?_
    · rw [last]
      rfl
    · exact fun _ _ waiting => waiting
    · exact fun _ _ => rfl
    · rfl
  case page => exact fun index ready => (inv.page index ready).goes_on

theorem PortalInv.submit (inv : PortalInv trace portal) {name password : Text} {isOpen : Bool}
    (taken : portalStep portal (.submit name password isOpen) = some next) :
    PortalInv (trace ++ [(portal, .submit name password isOpen)]) next := by
  simp only [portalStep] at taken
  cases posted : onSubmit name password isOpen with
  | nothing | passwordRequired | minEightCharacters =>
      rw [posted] at taken
      cases taken
  | post body =>
      rw [posted] at taken
      cases taken
      have forms : submissions (trace ++ [(portal, .submit name password isOpen)]) =
          submissions trace ++ [⟨name, password, isOpen⟩] := by
        rw [submissions_snoc, submission, posted]
        rfl
      have isBody : body = submitBody name password isOpen := by
        unfold onSubmit at posted
        split_ifs at posted
        exact (Submit.post.inj posted).symm
      have last : lastAddress (trace ++ [(portal, .submit name password isOpen)]) =
          lastAddress trace := by
        rw [lastAddress_snoc]
        rfl
      have before {index : Nat} {chain : Chain}
          (was : (portal.chains ++ [Chain.sent (.save body)])[index]? = some chain) :
          portal.chains[index]? = some chain ∨
            (index = portal.chains.length ∧ chain = .sent (.save body)) := by
        rcases List.getElem?_eq_some_iff.mp was with ⟨inside, is⟩
        by_cases old : index < portal.chains.length
        · exact .inl (by rwa [List.getElem?_append_left old] at was)
        · rw [List.length_append, List.length_singleton] at inside
          have same : index = portal.chains.length := by omega
          subst same
          rw [List.getElem?_append_right le_rfl, Nat.sub_self] at was
          exact .inr ⟨rfl, (Option.some.inj was).symm⟩
      constructor
      case address => rw [last]; exact inv.address
      case known => rw [last]; exact inv.known
      case link =>
        intro index attempt own
        have same : ownAttempt index (trace ++ [(portal, .submit name password isOpen)]) =
            ownAttempt index trace := ownAttempt_idle rfl rfl rfl
        exact inv.link index attempt (same ▸ own)
      case submitted =>
        rw [forms, List.length_append, List.length_append, inv.submitted, List.length_singleton,
          List.length_singleton]
      case chains =>
        intro index chain was
        rcases before was with old | ⟨rfl, rfl⟩
        · exact inv.chain_goes_on old
        · refine ⟨⟨name, password, isOpen⟩, ?_, isBody⟩
          rw [forms, ← inv.submitted, List.getElem?_append_right le_rfl, Nat.sub_self]
          rfl
      case serving =>
        intro serving is
        refine (inv.serving serving is).goes_on ?_ ?_ ?_ ?_
        · rw [last]
          exact id
        · intro index _ waiting
          rw [← waiting]
          exact List.getElem?_append_left (List.getElem?_eq_some_iff.mp waiting).1
        · exact fun _ _ => rfl
        · rfl
      case page =>
        intro index ready
        rcases before ready with old | ⟨-, new⟩
        · exact (inv.page index old).goes_on
        · cases new

end

theorem portalInv_powerOn (nvs : Nvs) : PortalInv [] (Portal.powerOn nvs) where
  address := rfl
  known := by
    rintro (assigning | connected)
    · cases assigning
    · cases connected
  link := nofun
  submitted := rfl
  chains := nofun
  serving := nofun
  page := nofun

theorem portalInv_of_history {nvs : Nvs} {trace : List (Portal × PortalAction)} {final : Portal}
    (run : PortalHistory nvs trace final) : PortalInv trace final := by
  apply run.invariant PortalInv (fun _ _ => True) (portalInv_powerOn nvs) _ (fun _ _ => trivial)
  intro trace portal action next _ inv _ taken
  cases action with
  | device action => exact inv.device taken
  | assign address => exact inv.assign taken
  | submit name password isOpen => exact inv.submit taken
  | arrive index offered => exact inv.arrive taken
  | respond => exact inv.respond taken
  | deliver index => exact inv.deliver taken
  | reject index => exact inv.reject taken
  | timer index => exact inv.timer taken

/-! The form as it was typed -/

theorem submission_named {trace : List (Portal × PortalAction)} {index : Nat} {form : TypedForm}
    (posted : (submissions trace)[index]? = some form) : form.name ≠ [] := by
  obtain ⟨taken, -, is⟩ := List.mem_filterMap.mp (List.mem_of_getElem? posted)
  unfold submission at is
  split at is
  case h_2 => cases is
  rename_i name password isOpen action
  split at is
  case h_2 => cases is
  rename_i body sent
  cases is
  intro unnamed
  rw [onSubmit, if_pos unnamed] at sent
  cases sent

theorem Tried.as_typed {trace : List (Portal × PortalAction)} {index : Nat}
    {gone : OwnAttempt → Prop} (tried : Tried trace index gone)
    (whole : WholeDelivery trace index) : AsTyped trace index := by
  obtain ⟨form, attempt, posted, own, ⟨portal, offered, member, sent, handled⟩, -⟩ := tried
  intro other same ssid pass isForm isOwn named worded ssidFits passFits
  cases posted.symm.trans isForm
  cases own.symm.trans isOwn
  have nonempty : ssid.bytes ≠ [] := by
    intro empty
    have name := Utf8.decode_encode form.name
    rw [named, empty] at name
    exact submission_named posted name.symm
  have submitted := saveHandler_submitted (saveHandler_connect handled) named worded nonempty
    ssidFits passFits form.isOpen
  have all := whole _ member
  simp only [receivesWhole, sent, bne_self_eq_false, Bool.false_or, beq_iff_eq] at all
  rw [all, TypedForm.body, submitted] at handled
  obtain ⟨isSsid, isPass, isFlag⟩ := SaveReply.connect.inj handled
  exact ⟨isSsid.symm, isPass.symm, isFlag.symm⟩

/-! What the page shows -/

/-- Where the page shows the dashboard's address, connect_sta ran with what save_handler received
of the form that was sent, the link got an address after that attempt entered CONNECTING, and the
address shown is the one that the device had when it told the page to be ready. -/
theorem portal_complete (nvs : Nvs) (trace : List (Portal × PortalAction)) (final : Portal)
    (run : PortalHistory nvs trace final) (index : Nat) (ip loc : Text)
    (shown : final.chains[index]? = some (.complete ip loc)) :
    Tried trace index Addressed ∧ (WholeDelivery trace index → AsTyped trace index) ∧
      Shown trace ip loc := by
  obtain ⟨tried, told⟩ := (portalInv_of_history run).chains index _ shown
  exact ⟨tried, tried.as_typed, told⟩

def savedForm : List PortalAction :=
  [.device (.init .ready), .device (.boot .ok noScan),
    .submit "home".toList "correct horse".toList false, .arrive 0 (some 384)] ++
    List.replicate 7 (.device (.httpd .ok)) ++ [.respond, .deliver 0, .timer 0]

def formOnline : List PortalAction :=
  savedForm ++ [.assign ⟨192, 168, 1, 17⟩, .device (.gotIp .success), .arrive 0 none, .respond,
    .deliver 0, .timer 0, .arrive 0 none, .respond, .deliver 0, .timer 0]

def onlineTrace : List (Portal × PortalAction) :=
  Transition.execTrace portalStep (Portal.powerOn Nvs.erased) formOnline

theorem home_portal_complete :
    Tried onlineTrace 0 Addressed ∧ AsTyped onlineTrace 0 ∧
      Shown onlineTrace "192.168.1.17".toList localName.toList := by
  obtain ⟨final, run, shown⟩ := Transition.exists_run_of_exec formOnline
    (fun final : Portal =>
      final.chains[0]? == some (.complete "192.168.1.17".toList localName.toList))
    (show (Transition.exec portalStep (Portal.powerOn Nvs.erased) formOnline).any _ = true by
      decide +kernel)
  have whole : WholeDelivery onlineTrace 0 := by
    unfold WholeDelivery
    decide +kernel
  obtain ⟨tried, typed, told⟩ := portal_complete Nvs.erased onlineTrace final run 0 _ _
    (beq_iff_eq.mp shown)
  exact ⟨tried, typed whole, told⟩

/-- Where it shows a failure, connect_sta ran for that form, and after that the driver refused,
an address was lost again, or the link was lost twice. -/
theorem portal_failed (nvs : Nvs) (trace : List (Portal × PortalAction)) (final : Portal)
    (run : PortalHistory nvs trace final) (index : Nat)
    (shown : final.chains[index]? = some .failed) : Tried trace index OffLink :=
  (portalInv_of_history run).chains index _ shown

def formOffline : List PortalAction :=
  savedForm ++ [.device (.disconnected 15 .success), .device (.disconnected 15 .success),
    .arrive 0 none, .deliver 0]

theorem home_portal_failed :
    Tried (Transition.execTrace portalStep (Portal.powerOn Nvs.erased) formOffline) 0 OffLink := by
  obtain ⟨final, run, shown⟩ := Transition.exists_run_of_exec formOffline
    (fun final : Portal => final.chains[0]? == some .failed)
    (show (Transition.exec portalStep (Portal.powerOn Nvs.erased) formOffline).any _ = true by
      decide +kernel)
  exact portal_failed Nvs.erased _ final run 0 (beq_iff_eq.mp shown)

end HydroGovernor
