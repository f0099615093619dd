import HydroGovernor.LinkMachine
import HydroGovernor.SaveDelivery
import HydroGovernor.StatusReplies

/-! The setup page and the device together: onSubmit of page_setup.html starts a chain of requests
that polls the device until it shows the dashboard's address or a failure. -/

namespace HydroGovernor

open Firmware
open Firmware.Transition (Run)
open Firmware.Utf8 (Text)

/-! The page -/

/-- The fetch that a chain waits for. -/
inductive Call where
  | save
  | status
  | dash
  deriving DecidableEq, Repr

inductive Request where
  | save (body : Bytes)
  | status
  | dash
  deriving DecidableEq, Repr

def Request.call : Request → Call
  | .save _ => .save
  | .status => .status
  | .dash => .dash

/-- Where the chain of one onSubmit is: a request under way to the device, with its handler, or
answered; a timer; or what the page shows in the end. -/
inductive Chain where
  | sent (request : Request)
  | served (call : Call)
  | answered (call : Call) (body : Bytes)
  | polling
  | preparing
  | retrying
  | ready
  | complete (ip loc : Text)
  | failed
  | form
  deriving DecidableEq, Repr

/-- The catch of each fetch. -/
def Call.rejected : Call → Chain
  | .save => .form
  | .status => .polling
  | .dash => .retrying

def isText (value : Option Json) (text : String) : Bool :=
  match value with
  | some (.string found) => found == text.toList
  | _ => false

/-- `value || other`, for a member that is a string where it is there. -/
def orText (value : Option Json) (other : Text) : Text :=
  match value with
  | some (.string (char :: text)) => char :: text
  | _ => other

/-! The device behind it -/

/-- What a handler has still to do. The second look at s_state decides `ret` of a save. -/
inductive Handler where
  | save (reply : SaveReply) (ret : EspErr)
  | status
  | dash (connected : Bool)
  deriving DecidableEq, Repr

/-- The request that the httpd task serves. `chain` is `none` once the page has given it up. -/
structure Serving where
  chain : Option Nat
  handler : Handler
  deriving DecidableEq, Repr

/-- `assigning` holds between the write of s_ip and the rest of IP_EVENT_STA_GOT_IP. The page has
the variables `_ip` and `_local`. -/
structure Portal where
  system : System
  ip : Bytes
  assigning : Bool
  serving : Option Serving
  chains : List Chain
  pageIp : Text
  pageLocal : Text
  deriving DecidableEq, Repr

def Portal.powerOn (nvs : Nvs) : Portal := ⟨System.powerOn nvs, [], false, none, [], [], []⟩

inductive PortalAction where
  | device (action : Action)
  | assign (address : IpAddr)
  | submit (name password : Text) (isOpen : Bool)
  | arrive (index : Nat) (offered : Option Nat)
  | respond
  | deliver (index : Nat)
  | reject (index : Nat)
  | timer (index : Nat)
  deriving DecidableEq, Repr

namespace Portal

def setChain (portal : Portal) (index : Nat) (chain : Chain) : Portal :=
  { portal with chains := portal.chains.set index chain }

/-- The event task is in one handler at a time, and so is the httpd task. -/
def permits (portal : Portal) : Action → Bool
  | .gotIp _ => portal.assigning
  | .staStart | .staConnected | .disconnected .. | .scanDone | .scanPublish _ => !portal.assigning
  | .getRoot | .postApShutdown | .postSave .. | .getScan => portal.serving.isNone
  | _ => true

end Portal

/-- wifi_manager_connect looks at the state. -/
def Serving.after (system : System) (action : Action) (serving : Serving) : Serving :=
  match action, system.httpd, serving.handler with
  | .httpd _, .saveAccepted _ _ _, .save reply _ =>
      { serving with
        handler := .save reply
          (if system.device.state = .apOnly ∨ system.device.state = .failed then .ok
          else .invalidState) }
  | _, _, _ => serving

def Action.isGotIp : Action → Bool
  | .gotIp _ => true
  | _ => false

namespace Portal

/-- A restart clears the statics and ends the request in service. -/
def afterDevice (portal : Portal) (action : Action) (next : System) : Portal :=
  if linkEvent portal.system action = some .powerOn then
    { portal with system := next, ip := [], assigning := false, serving := none }
  else
    { portal with
      system := next
      assigning := portal.assigning && !action.isGotIp
      serving := portal.serving.map (Serving.after portal.system action) }

/-- The first piece of a handler, up to where it waits or reads a second static. -/
def arrive (portal : Portal) (index : Nat) (offered : Option Nat) : Request → Option Portal
  | .save body =>
      match saveHandler portal.system.device.state (offered.elim [] (receivePart · body)) with
      | .connect ssid pass isOpen =>
          (step portal.system (.postSave ssid pass isOpen)).map (fun next =>
            { portal.setChain index (.served .save) with
              system := next
              serving := some ⟨some index, .save (.connect ssid pass isOpen) .invalidState⟩ })
      | reply => some (portal.setChain index (.answered .save (ascii (saveResponse .ok reply))))
  | .status =>
      if portal.system.device.state = .connected then
        some { portal.setChain index (.served .status) with
          serving := some ⟨some index, .status⟩ }
      else
        some (portal.setChain index
          (.answered .status (statusReply portal.system.device.state portal.ip)))
  | .dash =>
      some { portal.setChain index (.served .dash) with
        serving := some ⟨some index, .dash (portal.system.device.state == .connected)⟩ }

def answer (portal : Portal) (chain : Option Nat) (call : Call) (body : Bytes) : Portal :=
  { portal with
    chains := chain.elim portal.chains (fun index => portal.chains.set index (.answered call body))
    serving := none }

def respond (portal : Portal) : Option Portal :=
  match portal.serving with
  | none => none
  | some ⟨chain, .save reply ret⟩ =>
      if portal.system.httpd = .idle then
        some (portal.answer chain .save (ascii (saveResponse ret reply)))
      else none
  | some ⟨chain, .status⟩ => some (portal.answer chain .status (statusReply .connected portal.ip))
  | some ⟨chain, .dash connected⟩ =>
      some (portal.answer chain .dash (dashReply connected portal.ip))

def deliver (portal : Portal) (index : Nat) (call : Call) (body : Bytes) : Portal :=
  match Json.read (utf8Reading.text body) with
  | none => portal.setChain index call.rejected
  | some d =>
      match call with
      | .save =>
          portal.setChain index
            (if isText (d.member "status".toList) "connecting" then .polling else .form)
      | .status =>
          portal.setChain index
            (if isText (d.member "status".toList) "connected" then .preparing
            else if isText (d.member "status".toList) "failed" then .failed
            else .polling)
      | .dash =>
          if Json.truthy (d.member "ready".toList) then
            { portal.setChain index .ready with
              pageIp := orText (d.member "ip".toList) portal.pageIp
              pageLocal := orText (d.member "local".toList) localName.toList }
          else portal.setChain index .retrying

def reject (portal : Portal) (index : Nat) : Chain → Option Portal
  | .sent request => some (portal.setChain index request.call.rejected)
  | .served call =>
      some { portal.setChain index call.rejected with
        serving := portal.serving.map (fun serving =>
          if serving.chain = some index then { serving with chain := none } else serving) }
  | .answered call _ => some (portal.setChain index call.rejected)
  | _ => none

def timer (portal : Portal) (index : Nat) : Chain → Option Portal
  | .polling => some (portal.setChain index (.sent .status))
  | .preparing | .retrying => some (portal.setChain index (.sent .dash))
  | .ready => some (portal.setChain index (.complete portal.pageIp portal.pageLocal))
  | _ => none

end Portal

def portalStep (portal : Portal) : PortalAction → Option Portal
  | .device action =>
      if portal.permits action then
        (step portal.system action).map (portal.afterDevice action)
      else none
  | .assign address =>
      if portal.system.event = .idle ∧ portal.assigning = false then
        some { portal with ip := ipText (some address), assigning := true }
      else none
  | .submit name password isOpen =>
      match onSubmit name password isOpen with
      | .post body => some { portal with chains := portal.chains ++ [.sent (.save body)] }
      | _ => none
  | .arrive index offered =>
      if portal.serving = none ∧ portal.system.accepts then
        match portal.chains[index]? with
        | some (.sent request) => portal.arrive index offered request
        | _ => none
      else none
  | .respond => portal.respond
  | .deliver index =>
      match portal.chains[index]? with
      | some (.answered call body) => some (portal.deliver index call body)
      | _ => none
  | .reject index => portal.chains[index]?.bind (portal.reject index)
  | .timer index => portal.chains[index]?.bind (portal.timer index)

/-- Runs from power-on with the page just loaded. -/
abbrev PortalHistory (nvs : Nvs) (trace : List (Portal × PortalAction)) (final : Portal) : Prop :=
  Run portalStep (Portal.powerOn nvs) trace final

/-! What a history tells -/

/-- What the user put into a form that was sent. -/
structure TypedForm where
  name : Text
  password : Text
  isOpen : Bool
  deriving DecidableEq, Repr

def TypedForm.body (form : TypedForm) : Bytes := submitBody form.name form.password form.isOpen

def submission : PortalAction → Option TypedForm
  | .submit name password isOpen =>
      match onSubmit name password isOpen with
      | .post _ => some ⟨name, password, isOpen⟩
      | _ => none
  | _ => none

def submissions (trace : List (Portal × PortalAction)) : List TypedForm :=
  trace.filterMap (fun taken => submission taken.2)

/-- The attempt that connect_sta makes for one chain: the events of the link since it staged the
credentials, and those since it wrote CONNECTING. -/
structure OwnAttempt where
  ssid : CString
  pass : CString
  isOpen : Bool
  events : List LinkEvent
  sinceEntry : Option (List LinkEvent)
  deriving DecidableEq, Repr

/-- The step is connect_sta's copy into the statics, for the form of this chain. -/
def Portal.stages (portal : Portal) (index : Nat) :
    PortalAction → Option (CString × CString × Bool)
  | .device (.httpd _) =>
      match portal.system.httpd, portal.serving with
      | .connectStage ssid pass isOpen _, some ⟨some chain, .save _ _⟩ =>
          if chain = index then some (ssid, pass, isOpen) else none
      | _, _ => none
  | _ => none

/-- The step is connect_sta's write of CONNECTING, for the form of this chain. -/
def Portal.enters (portal : Portal) (index : Nat) : PortalAction → Bool
  | .device (.httpd _) =>
      match portal.system.httpd, portal.serving with
      | .connectEnter _, some ⟨some chain, .save _ _⟩ => chain == index
      | _, _ => false
  | _ => false

def Portal.linkEvent (portal : Portal) : PortalAction → Option LinkEvent
  | .device action => HydroGovernor.linkEvent portal.system action
  | _ => none

def OwnAttempt.goOn (attempt : OwnAttempt) (event : Option LinkEvent) (enters : Bool) :
    OwnAttempt :=
  { attempt with
    events := attempt.events ++ event.toList
    sinceEntry :=
      match attempt.sinceEntry with
      | some later => some (later ++ event.toList)
      | none => if enters then some [] else none }

def observeOwn (index : Nat) (own : Option OwnAttempt) (taken : Portal × PortalAction) :
    Option OwnAttempt :=
  match taken.1.stages index taken.2 with
  | some (ssid, pass, isOpen) => some ⟨ssid, pass, isOpen, [], none⟩
  | none => own.map (fun attempt =>
      attempt.goOn (taken.1.linkEvent taken.2) (taken.1.enters index taken.2))

def ownAttempt (index : Nat) (trace : List (Portal × PortalAction)) : Option OwnAttempt :=
  trace.foldl (observeOwn index) none

def observeAddress (last : Option IpAddr) (taken : Portal × PortalAction) : Option IpAddr :=
  match taken.2 with
  | .assign address => some address
  | _ => if taken.1.linkEvent taken.2 = some .powerOn then none else last

/-- The address given to the device last since it was powered on. -/
def lastAddress (trace : List (Portal × PortalAction)) : Option IpAddr :=
  trace.foldl observeAddress none

/-- save_handler took these credentials from the part of the form that it received. -/
def FormTaken (trace : List (Portal × PortalAction)) (index : Nat) (form : TypedForm)
    (ssid pass : CString) (isOpen : Bool) : Prop :=
  ∃ portal offered, (portal, .arrive index (some offered)) ∈ trace ∧
    portal.chains[index]? = some (.sent (.save form.body)) ∧
    saveHandler portal.system.device.state (receivePart offered form.body) =
      .connect ssid pass isOpen

/-- connect_sta ran for the form of this chain, and the attempt has gone on like this since. -/
def Tried (trace : List (Portal × PortalAction)) (index : Nat) (gone : OwnAttempt → Prop) :
    Prop :=
  ∃ form attempt, (submissions trace)[index]? = some form ∧
    ownAttempt index trace = some attempt ∧
    FormTaken trace index form attempt.ssid attempt.pass attempt.isOpen ∧ gone attempt

/-- The attempt has come to count. -/
def Entered (attempt : OwnAttempt) : Prop := attempt.sinceEntry.isSome = true

/-- After that the link has got an address. -/
def Addressed (attempt : OwnAttempt) : Prop :=
  ∃ later, attempt.sinceEntry = some later ∧ .gotIp ∈ later

/-- The link has been given up since the credentials were staged. -/
def OffLink (attempt : OwnAttempt) : Prop := GivenUp attempt.events

/-- Where the form of this chain arrives, httpd_req_recv gives its whole body. -/
def receivesWhole (index : Nat) (taken : Portal × PortalAction) : Bool :=
  match taken.2, taken.1.chains[index]? with
  | .arrive other (some offered), some (.sent (.save body)) =>
      other != index || receivePart offered body == body
  | _, _ => true

def WholeDelivery (trace : List (Portal × PortalAction)) (index : Nat) : Prop :=
  ∀ taken ∈ trace, receivesWhole index taken = true

/-- The attempt has the name, the password and the flag that the user chose, as far as they fit
into the arrays of save_handler. -/
def AsTyped (trace : List (Portal × PortalAction)) (index : Nat) : Prop :=
  ∀ (form : TypedForm) (attempt : OwnAttempt) (ssid pass : CString),
    (submissions trace)[index]? = some form → ownAttempt index trace = some attempt →
    Utf8.encode form.name = ssid.bytes → Utf8.encode form.password = pass.bytes →
    ssid.length ≤ 63 → pass.length ≤ 63 →
    attempt.ssid = ssid ∧ attempt.pass = pass ∧ attempt.isOpen = form.isOpen

/-- A /dashready request that found CONNECTED was answered while this was the address. -/
def Told (trace : List (Portal × PortalAction)) (address : IpAddr) : Prop :=
  ∃ front portal chain back, trace = front ++ (portal, .respond) :: back ∧
    portal.serving = some ⟨chain, .dash true⟩ ∧ lastAddress front = some address

end HydroGovernor
