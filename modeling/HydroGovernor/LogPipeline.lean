import HydroGovernor.Library.BoundedQueue
import HydroGovernor.TelnetLines
import HydroGovernor.TelnetServer

/-! The log from enqueue_log through the queue and logger_task to the Telnet client, among the
connections of the socket table. -/

namespace HydroGovernor

open Firmware
open Firmware.Transition (Run)

def logMsgLen : Nat := 128
def logQueueDepth : Nat := 16

/-- The item of the log queue: `char buf[LOG_MSG_LEN]`. -/
abbrev LogBuffer : Type := CField logMsgLen

/-- The buffer that enqueue_log hands to xQueueSend. -/
def logBuffer (msg : CString) : LogBuffer := CField.strncpy logMsgLen (logMsgLen - 1) msg

/-- Where logger_task is, with its `buf`. -/
inductive LoggerPc where
  | waiting
  | forwarding (buf : LogBuffer)
  | sending (buf : LogBuffer)
  deriving DecidableEq, Repr

/-- `created` says that sensor_manager_init got its queue. `received` is what the other end of
each connection has got from the log. -/
structure LogSystem where
  created : Bool
  queue : BoundedQueue LogBuffer logQueueDepth
  logger : LoggerPc
  telnet : TelnetSystem
  received : Connection SocketOwner → Bytes

def LogSystem.boot (created : Bool) : LogSystem :=
  ⟨created, BoundedQueue.empty, .waiting, TelnetSystem.started, fun _ => []⟩

/-- `enqueue` comes from any task. `sendLine` and `sendNewline` are the two sends of
telnet_server_send, with the room that the socket has for each. -/
inductive LogAction where
  | enqueue (msg : CString)
  | receive
  | forward
  | sendLine (room : Nat)
  | sendNewline (room : Nat)
  | telnet (action : TelnetAction)
  deriving DecidableEq, Repr

def enqueueLog (system : LogSystem) (msg : CString) : LogSystem :=
  if system.created then { system with queue := system.queue.send (logBuffer msg) } else system

/-- The one caller of telnet_server_send is logger_task. -/
def TelnetAction.sends : TelnetAction → Bool
  | .call => true
  | .send _ => true
  | _ => false

/-- Bytes sent on a descriptor reach whatever is open on it. -/
def LogSystem.deliver (system : LogSystem) (fd : Nat) (bytes : Bytes) :
    Connection SocketOwner → Bytes :=
  match system.telnet.sockets.table fd with
  | none => system.received
  | some connection =>
      Function.update system.received connection (system.received connection ++ bytes)

def LogSystem.send (system : LogSystem) (call : SendCall) (bytes : Bytes) : Option LogSystem :=
  (telnetStep system.telnet (.send 0)).map (fun telnet =>
    { system with telnet := telnet, received := system.deliver call.fd bytes })

def logStep (system : LogSystem) : LogAction → Option LogSystem
  | .enqueue msg => some (enqueueLog system msg)
  | .receive =>
      if system.created ∧ system.logger = .waiting then
        system.queue.receive.map (fun item =>
          { system with queue := item.2, logger := .forwarding item.1 })
      else none
  | .forward =>
      match system.logger with
      | .forwarding buf =>
          (telnetStep system.telnet .call).map (fun telnet =>
            { system with
              telnet := telnet
              logger := if system.telnet.clientFd = none then .waiting else .sending buf })
      | _ => none
  | .sendLine room =>
      match system.logger, system.telnet.calls with
      | .sending buf, [⟨fd, connection, false⟩] =>
          system.send ⟨fd, connection, false⟩ (sendNow room buf.value.bytes)
      | _, _ => none
  | .sendNewline room =>
      match system.logger, system.telnet.calls with
      | .sending _, [⟨fd, connection, true⟩] =>
          (system.send ⟨fd, connection, true⟩ (sendNow room crlf)).map (fun next =>
            { next with logger := .waiting })
      | _, _ => none
  | .telnet action =>
      if action.sends then none
      else (telnetStep system.telnet action).map (fun telnet => { system with telnet := telnet })

abbrev LogHistory (created : Bool) (trace : List (LogSystem × LogAction)) (system : LogSystem) :
    Prop :=
  Run logStep (LogSystem.boot created) trace system

/-! What each step does -/

section Steps

variable {system next : LogSystem}

theorem receive_cases (taken : logStep system .receive = some next) :
    system.logger = .waiting ∧ ∃ buf rest, system.queue.receive = some (buf, rest) ∧
      next = { system with queue := rest, logger := .forwarding buf } := by
  simp only [logStep] at taken
  split at taken
  · rename_i ready
    obtain ⟨⟨buf, rest⟩, received, rfl⟩ := Option.map_eq_some_iff.mp taken
    exact ⟨ready.2, buf, rest, received, rfl⟩
  · cases taken

theorem forward_cases (taken : logStep system .forward = some next) :
    ∃ buf, system.logger = .forwarding buf ∧
      ((system.telnet.clientFd = none ∧ next = { system with logger := .waiting }) ∨
        ∃ fd, system.telnet.clientFd = some fd ∧ next = { system with
          telnet := { system.telnet with
            calls := system.telnet.calls ++ [⟨fd, system.telnet.sockets.table fd, false⟩] }
          logger := .sending buf }) := by
  simp only [logStep] at taken
  split at taken
  · rename_i buf holding
    refine ⟨buf, holding, ?_⟩
    cases client : system.telnet.clientFd with
    | none =>
        simp only [telnetStep, client, Option.map_some, if_true, Option.some.injEq] at taken
        exact .inl ⟨rfl, taken.symm⟩
    | some fd =>
        simp only [telnetStep, client, Option.map_some, reduceCtorEq, if_false,
          Option.some.injEq] at taken
        exact .inr ⟨fd, rfl, by rw [← taken, ← client]⟩
  · cases taken

theorem sendLine_cases {room : Nat} (taken : logStep system (.sendLine room) = some next) :
    ∃ buf fd connection, system.logger = .sending buf ∧
      system.telnet.calls = [⟨fd, connection, false⟩] ∧ next = { system with
        telnet := { system.telnet with calls := [⟨fd, connection, true⟩] }
        received := system.deliver fd (sendNow room buf.value.bytes) } := by
  simp only [logStep] at taken
  split at taken
  · rename_i buf fd connection sending calls
    refine ⟨buf, fd, connection, sending, calls, ?_⟩
    simp only [LogSystem.send, telnetStep, calls, List.getElem?_cons_zero, Bool.false_eq_true,
      if_false, List.set_cons_zero, Option.map_some, Option.some.injEq] at taken
    exact taken.symm
  · cases taken

theorem sendNewline_cases {room : Nat} (taken : logStep system (.sendNewline room) = some next) :
    ∃ buf fd connection, system.logger = .sending buf ∧
      system.telnet.calls = [⟨fd, connection, true⟩] ∧ next = { system with
        telnet := { system.telnet with calls := [] }
        received := system.deliver fd (sendNow room crlf)
        logger := .waiting } := by
  simp only [logStep] at taken
  split at taken
  · rename_i buf fd connection sending calls
    refine ⟨buf, fd, connection, sending, calls, ?_⟩
    simp only [LogSystem.send, telnetStep, calls, List.getElem?_cons_zero, if_true,
      List.eraseIdx_cons_zero, Option.map_some, Option.some.injEq] at taken
    exact taken.symm
  · cases taken

theorem telnet_cases {action : TelnetAction} (taken : logStep system (.telnet action) = some next) :
    action.sends = false ∧ ∃ telnet, telnetStep system.telnet action = some telnet ∧
      next = { system with telnet := telnet } := by
  simp only [logStep] at taken
  split at taken
  · cases taken
  · rename_i quiet
    obtain ⟨telnet, stepped, rfl⟩ := Option.map_eq_some_iff.mp taken
    exact ⟨by simpa using quiet, telnet, stepped, rfl⟩

end Steps

/-! The queue -/

/-- enqueue_log offers a buffer, and logger_task takes the oldest one out. -/
def logUse : BoundedQueue.Use logStep LogBuffer logQueueDepth where
  queue := LogSystem.queue
  offer system action :=
    match action with
    | .enqueue msg => if system.created then some (logBuffer msg) else none
    | _ => none
  take system action :=
    match action with
    | .receive => system.queue.receive.map Prod.fst
    | _ => none
  offered system action next item taken offers := by
    cases action with
    | enqueue msg =>
        cases taken
        refine ⟨rfl, ?_⟩
        cases created : system.created with
        | true =>
            simp only [created, if_true, Option.some.injEq] at offers
            rw [enqueueLog, if_pos created, ← offers]
        | false => simp [created] at offers
    | _ => cases offers
  taken system action next item taken takes := by
    cases action with
    | receive =>
        obtain ⟨-, buf, rest, received, rfl⟩ := receive_cases taken
        rw [received] at takes
        cases takes
        exact ⟨rfl, received⟩
    | _ => cases takes
  framed system action next taken offers takes := by
    cases action with
    | enqueue msg =>
        cases taken
        cases created : system.created with
        | true => simp [created] at offers
        | false => simp [enqueueLog, created]
    | receive =>
        obtain ⟨-, buf, rest, received, -⟩ := receive_cases taken
        simp [received] at takes
    | forward =>
        obtain ⟨buf, -, ⟨-, rfl⟩ | ⟨fd, -, rfl⟩⟩ := forward_cases taken
        · rfl
        · rfl
    | sendLine room =>
        obtain ⟨buf, fd, connection, -, -, rfl⟩ := sendLine_cases taken
        rfl
    | sendNewline room =>
        obtain ⟨buf, fd, connection, -, -, rfl⟩ := sendNewline_cases taken
        rfl
    | telnet action =>
        obtain ⟨-, telnet, -, rfl⟩ := telnet_cases taken
        rfl

def enqueued (trace : List (LogSystem × LogAction)) : List CString :=
  trace.filterMap (fun taken =>
    match taken.2 with
    | .enqueue msg => some msg
    | _ => none)

/-- What logger_task has taken out and what waits is what was enqueued, in its order and cut to
127 bytes, without the messages that found sixteen others waiting. -/
structure LogKept (trace : List (LogSystem × LogAction)) (final : LogSystem) : Prop where
  order : logUse.delivered trace ++ final.queue.items = logUse.accepted trace
  texts : ((logUse.accepted trace).map CField.value).Sublist
    ((enqueued trace).map (CString.take 127))
  lost : ∀ front system msg back, trace = front ++ (system, .enqueue msg) :: back →
    (logUse.accept system (.enqueue msg) = none ↔
      (logUse.accepted front).length = (logUse.delivered front).length + logQueueDepth)

theorem logBuffer_value (msg : CString) : (logBuffer msg).value = msg.take 127 :=
  CField.strncpy_value msg (by decide)

theorem created_step {system next : LogSystem} {action : LogAction}
    (taken : logStep system action = some next) : next.created = system.created := by
  cases action with
  | enqueue msg =>
      cases taken
      unfold enqueueLog
      split <;> rfl
  | receive =>
      obtain ⟨-, buf, rest, -, rfl⟩ := receive_cases taken
      rfl
  | forward =>
      obtain ⟨buf, -, ⟨-, rfl⟩ | ⟨fd, -, rfl⟩⟩ := forward_cases taken
      · rfl
      · rfl
  | sendLine room =>
      obtain ⟨buf, fd, connection, -, -, rfl⟩ := sendLine_cases taken
      rfl
  | sendNewline room =>
      obtain ⟨buf, fd, connection, -, -, rfl⟩ := sendNewline_cases taken
      rfl
  | telnet action =>
      obtain ⟨-, telnet, -, rfl⟩ := telnet_cases taken
      rfl

theorem offers_values (trace : List (LogSystem × LogAction)) :
    ((logUse.offers trace).map CField.value).Sublist ((enqueued trace).map (CString.take 127)) := by
  induction trace with
  | nil => exact List.Sublist.refl _
  | cons pair trace ih =>
      obtain ⟨system, action⟩ := pair
      cases action with
      | enqueue msg =>
          cases created : system.created with
          | true =>
              have head : logUse.offers ((system, .enqueue msg) :: trace) =
                  logBuffer msg :: logUse.offers trace := by
                simp [BoundedQueue.Use.offers, logUse, created]
              rw [head, List.map_cons, logBuffer_value]
              exact ih.cons_cons _
          | false =>
              have head :
                  logUse.offers ((system, .enqueue msg) :: trace) = logUse.offers trace := by
                simp [BoundedQueue.Use.offers, logUse, created]
              rw [head]
              exact ih.cons _
      | _ => exact ih

/-- The log queue loses nothing but what finds it full. -/
theorem log_kept (trace : List (LogSystem × LogAction)) (final : LogSystem)
    (run : LogHistory true trace final) : LogKept trace final where
  order := logUse.conserved run rfl
  texts := ((logUse.accepted_sublist trace).map _).trans (offers_values trace)
  lost front system msg back split := by
    obtain ⟨_, before, _, _⟩ := run.before split
    have created : system.created = true :=
      before.invariant_state (fun state => state.created = true) rfl
        (fun state action next is taken => (created_step taken).trans is)
    have offered : logUse.offer system (.enqueue msg) = some (logBuffer msg) := by
      simp [logUse, created]
    exact logUse.refused_iff run rfl split offered

def burst : List LogAction := List.replicate 17 (.enqueue ⟨ascii "[SENSOR] dht:OK", by decide⟩)

theorem burst_kept :
    ∃ final, LogKept (Transition.execTrace logStep (LogSystem.boot true) burst) final ∧
      final.queue.items.length = 16 := by
  obtain ⟨final, run, full⟩ := Transition.exists_run_of_exec burst
    (fun (final : LogSystem) => decide (final.queue.items.length = 16))
    (show (Transition.exec logStep (LogSystem.boot true) burst).any _ = true by decide +kernel)
  exact ⟨final, log_kept _ final run, of_decide_eq_true full⟩

/-! The client -/

/-- The connection that telnet_server_send would send to. -/
def TelnetSystem.addressee (telnet : TelnetSystem) : Option (Connection SocketOwner) :=
  telnet.clientFd.bind telnet.sockets.table

/-- The buffer that logger_task hands to telnet_server_send in this step. -/
def handedOver (system : LogSystem) (action : LogAction) : Option LogBuffer :=
  match action, system.logger with
  | .forward, .forwarding buf => some buf
  | _, _ => none

def handled (trace : List (LogSystem × LogAction)) : List LogBuffer :=
  trace.filterMap (fun taken => handedOver taken.1 taken.2)

/-- Those of them that are for this connection. -/
def handledFor (connection : Connection SocketOwner) (trace : List (LogSystem × LogAction)) :
    List LogBuffer :=
  trace.filterMap (fun taken =>
    if taken.1.telnet.addressee = some connection then handedOver taken.1 taken.2 else none)

/-- What the call in progress has still to send to this connection. -/
def LogSystem.unsent (system : LogSystem) (connection : Connection SocketOwner) : Bytes :=
  match system.logger, system.telnet.calls with
  | .sending buf, [⟨_, copied, lineSent⟩] =>
      if copied = some connection then if lineSent then crlf else lineOf buf.value else []
  | _, _ => []

/-- The connection of the call in progress has not been closed by telnet_task. -/
def TelnetSystem.callOpen (telnet : TelnetSystem) : Prop :=
  ∀ call ∈ telnet.calls, ∀ connection ∈ call.connection, connection ∉ telnet.closed

instance (telnet : TelnetSystem) : Decidable telnet.callOpen :=
  inferInstanceAs (Decidable (∀ call ∈ telnet.calls, ∀ connection ∈ call.connection, _))

def LoggerPc.line : LoggerPc → Option LogBuffer
  | .sending buf => some buf
  | _ => none

/-- A send finds room for all its bytes, on a connection that is still open. -/
def SentWhole (system : LogSystem) : LogAction → Prop
  | .sendLine room =>
      (∀ buf ∈ system.logger.line, buf.value.length ≤ room) ∧ system.telnet.callOpen
  | .sendNewline room => crlf.length ≤ room ∧ system.telnet.callOpen
  | _ => True

instance (system : LogSystem) : (action : LogAction) → Decidable (SentWhole system action)
  | .sendLine _ | .sendNewline _ => inferInstanceAs (Decidable (_ ∧ _))
  | .enqueue _ | .receive | .forward | .telnet _ => isTrue trivial

/-- The connection is sent messages that follow each other in the log, and has received their
lines, up to the part of the last line that is still to be sent. -/
structure ClientLog (trace : List (LogSystem × LogAction)) (final : LogSystem)
    (connection : Connection SocketOwner) : Prop where
  consecutive : handledFor connection trace <:+: logUse.delivered trace
  text : final.received connection ++ final.unsent connection =
    (handledFor connection trace).flatMap (fun buf => lineOf buf.value)

/-- What a step of telnet_task or of another user of the sockets does to the addressee. -/
inductive AddresseeMoves (telnet next : TelnetSystem) : Prop where
  | kept (client : next.clientFd = telnet.clientFd) (accepted : next.accepted = telnet.accepted)
      (publishing : ∀ fd, next.task = .publishing fd → telnet.task = .publishing fd)
  | accepted (client : next.clientFd = none) (fresh : Connection SocketOwner)
      (accepted : next.accepted = telnet.accepted ++ [fresh])
  | published {fd : Nat} (task : telnet.task = .publishing fd) (client : next.clientFd = some fd)
      (accepted : next.accepted = telnet.accepted) (polling : next.task = .polling fd)
  | cleared (client : next.clientFd = none) (accepted : next.accepted = telnet.accepted)
      (closing : ∀ fd, next.task ≠ .publishing fd)

theorem addresseeMoves_step {telnet next : TelnetSystem} {action : TelnetAction}
    (inv : TelnetInv telnet) (quiet : action.sends = false)
    (taken : telnetStep telnet action = some next) :
    AddresseeMoves telnet next ∧ next.calls = telnet.calls := by
  cases action with
  | acceptFailed =>
      simp only [telnetStep] at taken
      split at taken <;> cases taken
      exact ⟨.kept rfl rfl (fun _ is => is), rfl⟩
  | accept fd =>
      simp only [telnetStep] at taken
      split at taken <;> cases taken
      rename_i ready
      have unpublished : telnet.clientFd = none := by
        apply Option.eq_none_iff_forall_ne_some.mpr
        intro client published
        have holding := (inv.published client published).1
        rw [ready.1] at holding
        cases holding
      exact ⟨.accepted unpublished _ rfl, rfl⟩
  | task ended =>
      simp only [telnetStep, taskStep] at taken
      cases pc : telnet.task with
      | accepting => simp [pc] at taken
      | publishing client =>
          simp only [pc] at taken
          cases taken
          exact ⟨.published pc rfl rfl rfl, rfl⟩
      | polling client =>
          simp only [pc] at taken
          split at taken <;> cases taken
          · exact ⟨.kept rfl rfl (fun _ is => by cases is), rfl⟩
          · exact ⟨.kept rfl rfl (fun _ is => is), rfl⟩
      | clearing client =>
          simp only [pc] at taken
          cases taken
          exact ⟨.cleared rfl rfl (fun _ is => by cases is), rfl⟩
      | closing client =>
          simp only [pc] at taken
          cases taken
          exact ⟨.kept rfl rfl (fun _ is => by cases is), rfl⟩
  | call => cases quiet
  | send index => cases quiet
  | otherOpens fd =>
      simp only [telnetStep] at taken
      split at taken <;> cases taken
      exact ⟨.kept rfl rfl (fun _ is => is), rfl⟩
  | otherCloses fd =>
      simp only [telnetStep] at taken
      split at taken
      · cases taken
      · split at taken <;> cases taken
        exact ⟨.kept rfl rfl (fun _ is => is), rfl⟩

theorem addressee_last {telnet : TelnetSystem} (inv : TelnetInv telnet) {fd : Nat}
    (holding : telnet.task.client = some fd) :
    telnet.accepted.getLast? = telnet.sockets.table fd := by
  obtain ⟨connection, stored, -, whole⟩ := inv.held fd holding
  rw [whole, stored, List.getLast?_concat]

/-- `forwarding` is what logger_task has received and not handed over yet. -/
def LoggerPc.pending : LoggerPc → List LogBuffer
  | .forwarding buf => [buf]
  | _ => []

structure ClientInv (connection : Connection SocketOwner) (trace : List (LogSystem × LogAction))
    (system : LogSystem) : Prop where
  telnet : TelnetInv system.telnet
  idle : (∀ buf, system.logger ≠ .sending buf) → system.telnet.calls = []
  delivered : logUse.delivered trace = handled trace ++ system.logger.pending
  consecutive : handledFor connection trace <:+: handled trace
  current : ∀ fd, system.telnet.clientFd = some fd →
    system.telnet.accepted.getLast? = some connection →
      handledFor connection trace <:+ handled trace
  unpublished : ∀ fd, system.telnet.task = .publishing fd → system.telnet.clientFd = none
  seen : handledFor connection trace ≠ [] → connection ∈ system.telnet.accepted ∧
    ∀ fd, system.telnet.task = .publishing fd → system.telnet.accepted.getLast? ≠ some connection
  text : system.received connection ++ system.unsent connection =
    (handledFor connection trace).flatMap (fun buf => lineOf buf.value)

section Invariant

variable {connection : Connection SocketOwner} {trace : List (LogSystem × LogAction)}
  {system next : LogSystem}

theorem clientInv_boot (created : Bool) : ClientInv connection [] (LogSystem.boot created) where
  telnet := telnetInv_started
  idle _ := rfl
  delivered := rfl
  consecutive := List.infix_rfl
  current _ is := by cases is
  unpublished _ _ := rfl
  seen some := absurd rfl some
  text := rfl

variable (connection trace system) in
theorem handledFor_quiet (action : LogAction) (none : handedOver system action = none) :
    handled (trace ++ [(system, action)]) = handled trace ∧
      handledFor connection (trace ++ [(system, action)]) = handledFor connection trace := by
  constructor
  · rw [handled, Transition.filterMap_snoc, none]
    exact List.append_nil _
  · rw [handledFor, Transition.filterMap_snoc, none, ite_self]
    exact List.append_nil _

theorem delivered_snoc {action : LogAction} :
    logUse.delivered (trace ++ [(system, action)]) =
      logUse.delivered trace ++ (logUse.take system action).toList :=
  Transition.filterMap_snoc _ _ _

theorem unsent_sending {buf : LogBuffer} {fd : Nat} {copied : Option (Connection SocketOwner)}
    {lineSent : Bool} (sending : system.logger = .sending buf)
    (calls : system.telnet.calls = [⟨fd, copied, lineSent⟩]) :
    system.unsent connection =
      if copied = some connection then if lineSent then crlf else lineOf buf.value else [] := by
  simp only [LogSystem.unsent, sending, calls]

theorem clientInv_enqueue (inv : ClientInv connection trace system) (msg : CString) :
    ClientInv connection (trace ++ [(system, .enqueue msg)]) (enqueueLog system msg) := by
  obtain ⟨all, own⟩ := handledFor_quiet connection trace system (.enqueue msg) rfl
  have same : ∃ queue, enqueueLog system msg = { system with queue := queue } := by
    unfold enqueueLog
    split
    · exact ⟨_, rfl⟩
    · exact ⟨system.queue, rfl⟩
  obtain ⟨queue, same⟩ := same
  rw [same]
  exact
    { telnet := inv.telnet
      idle := inv.idle
      delivered := by
        rw [delivered_snoc, all, inv.delivered]
        exact List.append_nil _
      consecutive := by rw [all, own]; exact inv.consecutive
      current := by rw [all, own]; exact inv.current
      unpublished := inv.unpublished
      seen := by rw [own]; exact inv.seen
      text := by rw [own]; exact inv.text }

theorem clientInv_receive (inv : ClientInv connection trace system)
    (taken : logStep system .receive = some next) :
    ClientInv connection (trace ++ [(system, .receive)]) next := by
  obtain ⟨all, own⟩ := handledFor_quiet connection trace system .receive rfl
  obtain ⟨waiting, buf, rest, received, rfl⟩ := receive_cases taken
  have idle := inv.idle (by rw [waiting]; intro _ is; cases is)
  have text := inv.text
  rw [LogSystem.unsent, waiting] at text
  exact
    { telnet := inv.telnet
      idle := fun _ => idle
      delivered := by
        have took : logUse.take system .receive = some buf := by
          show system.queue.receive.map Prod.fst = some buf
          rw [received]
          rfl
        rw [delivered_snoc, took, inv.delivered, waiting, all]
        show (handled trace ++ []) ++ [buf] = handled trace ++ [buf]
        rw [List.append_nil]
      consecutive := by rw [all, own]; exact inv.consecutive
      current := by rw [all, own]; exact inv.current
      unpublished := inv.unpublished
      seen := by rw [own]; exact inv.seen
      text := by rw [own]; exact text }

theorem clientInv_forward (inv : ClientInv connection trace system)
    (taken : logStep system .forward = some next) :
    ClientInv connection (trace ++ [(system, .forward)]) next := by
  obtain ⟨buf, forwarding, handing⟩ := forward_cases taken
  have idle := inv.idle (by rw [forwarding]; intro _ is; cases is)
  have hands : handedOver system .forward = some buf := by
    simp only [handedOver, forwarding]
  have all : handled (trace ++ [(system, .forward)]) = handled trace ++ [buf] := by
    rw [handled, Transition.filterMap_snoc, hands]
    rfl
  have delivered : logUse.delivered (trace ++ [(system, .forward)]) = handled trace ++ [buf] := by
    rw [delivered_snoc, inv.delivered, forwarding]
    exact List.append_nil _
  have text := inv.text
  rw [LogSystem.unsent, forwarding, List.append_nil] at text
  have still : handledFor connection trace <:+: handled trace ++ [buf] :=
    inv.consecutive.trans (List.prefix_append _ _).isInfix
  -- a message that is not for this connection leaves its messages as they are
  have other (away : system.telnet.addressee ≠ some connection) :
      handledFor connection (trace ++ [(system, .forward)]) = handledFor connection trace := by
    rw [handledFor, Transition.filterMap_snoc, if_neg away]
    exact List.append_nil _
  rcases handing with ⟨unpublished, rfl⟩ | ⟨fd, published, rfl⟩
  · have own := other (by rw [TelnetSystem.addressee, unpublished]; intro is; cases is)
    exact
      { telnet := inv.telnet
        idle := fun _ => idle
        delivered := by rw [delivered, all]; exact (List.append_nil _).symm
        consecutive := by rw [all, own]; exact still
        current := fun fd is => absurd (unpublished.symm.trans is) (by simp)
        unpublished := inv.unpublished
        seen := by rw [own]; exact inv.seen
        text := by rw [own, ← text]; exact List.append_nil _ }
  · have holding := (inv.telnet.published fd published).1
    have last := addressee_last inv.telnet holding
    have addressed : system.telnet.addressee = system.telnet.sockets.table fd := by
      rw [TelnetSystem.addressee, published, Option.bind_some]
    have notPublishing : ∀ other, system.telnet.task ≠ .publishing other := by
      intro other publishing
      rw [inv.unpublished other publishing] at published
      cases published
    have calls : system.telnet.calls ++ [⟨fd, system.telnet.sockets.table fd, false⟩] =
        [⟨fd, system.telnet.sockets.table fd, false⟩] := by rw [idle, List.nil_append]
    by_cases mine : system.telnet.sockets.table fd = some connection
    · have own : handledFor connection (trace ++ [(system, .forward)]) =
          handledFor connection trace ++ [buf] := by
        rw [handledFor, Transition.filterMap_snoc, addressed, if_pos mine, hands]
        rfl
      obtain ⟨front, split⟩ := inv.current fd published (last.trans mine)
      have suffix : handledFor connection trace ++ [buf] <:+ handled trace ++ [buf] :=
        ⟨front, by rw [← List.append_assoc, split]⟩
      exact
        { telnet := telnetInv_call inv.telnet published
          idle := fun notSending => absurd rfl (notSending buf)
          delivered := by rw [delivered, all]; exact (List.append_nil _).symm
          consecutive := by rw [all, own]; exact suffix.isInfix
          current := fun _ _ _ => by rw [all, own]; exact suffix
          unpublished := inv.unpublished
          seen := fun _ => ⟨List.mem_of_getLast? (last.trans mine),
            fun other publishing => absurd publishing (notPublishing other)⟩
          text := by
            rw [own, List.flatMap_append, ← text, List.flatMap_singleton, unsent_sending rfl calls,
              if_pos mine, if_neg Bool.false_ne_true] }
    · have own := other (by rw [addressed]; exact mine)
      exact
        { telnet := telnetInv_call inv.telnet published
          idle := fun notSending => absurd rfl (notSending buf)
          delivered := by rw [delivered, all]; exact (List.append_nil _).symm
          consecutive := by rw [all, own]; exact still
          current := fun _ _ here => absurd (last.symm.trans here) mine
          unpublished := inv.unpublished
          seen := by rw [own]; exact inv.seen
          text := by
            rw [own, ← text, unsent_sending rfl calls, if_neg mine]
            exact List.append_nil _ }

theorem ClientInv.open (inv : ClientInv connection trace system) {call : SendCall}
    (calls : system.telnet.calls = [call])
    (unclosed : system.telnet.callOpen) :
    call.connection = system.telnet.sockets.table call.fd ∧ call.connection.isSome := by
  have pending : call ∈ system.telnet.calls := by rw [calls]; exact List.mem_cons_self
  obtain ⟨copied, -, is, stored⟩ := inv.telnet.calls call pending
  rw [is, stored (unclosed call pending copied is)]
  exact ⟨rfl, rfl⟩

theorem deliver_open {fd : Nat} {bytes : Bytes} {copied : Connection SocketOwner}
    (stored : system.telnet.sockets.table fd = some copied) :
    system.deliver fd bytes connection =
      system.received connection ++ if copied = connection then bytes else [] := by
  rw [LogSystem.deliver, stored]
  split
  · rename_i same
    rw [same]
    exact Function.update_self ..
  · rename_i differs
    rw [List.append_nil]
    exact Function.update_of_ne (fun same => differs same.symm) ..

theorem clientInv_sendLine {room : Nat} (inv : ClientInv connection trace system)
    (whole : SentWhole system (.sendLine room))
    (taken : logStep system (.sendLine room) = some next) :
    ClientInv connection (trace ++ [(system, .sendLine room)]) next := by
  obtain ⟨all, own⟩ := handledFor_quiet connection trace system (.sendLine room) rfl
  obtain ⟨buf, fd, copied, sending, calls, rfl⟩ := sendLine_cases taken
  obtain ⟨fits, unclosed⟩ := whole
  obtain ⟨stored, isOpen⟩ := inv.open calls unclosed
  obtain ⟨reached, is⟩ := Option.isSome_iff_exists.mp isOpen
  have text := inv.text
  rw [unsent_sending sending calls, if_neg Bool.false_ne_true] at text
  have bytes : sendNow room buf.value.bytes = buf.value.bytes :=
    List.take_of_length_le (fits buf (by rw [sending]; rfl))
  exact
    { telnet := inv.telnet.sent (by
        intro call member
        rw [List.mem_singleton.mp member]
        exact ⟨⟨fd, copied, false⟩, by rw [calls]; exact List.mem_cons_self, rfl, rfl⟩)
      idle := fun notSending => absurd sending (notSending buf)
      delivered := by
        rw [delivered_snoc, all, inv.delivered]
        exact List.append_nil _
      consecutive := by rw [all, own]; exact inv.consecutive
      current := by rw [all, own]; exact inv.current
      unpublished := inv.unpublished
      seen := by rw [own]; exact inv.seen
      text := by
        rw [own, ← text, unsent_sending (by exact sending) (by rfl), if_pos rfl, bytes]
        show system.deliver fd buf.value.bytes connection ++ _ = _
        rw [deliver_open (stored.symm.trans is), show copied = some reached from is]
        by_cases mine : reached = connection
        · simp only [mine, if_true, lineOf, List.append_assoc]
        · simp only [Option.some.injEq, mine, if_false, List.append_nil] }

theorem clientInv_sendNewline {room : Nat} (inv : ClientInv connection trace system)
    (whole : SentWhole system (.sendNewline room))
    (taken : logStep system (.sendNewline room) = some next) :
    ClientInv connection (trace ++ [(system, .sendNewline room)]) next := by
  obtain ⟨all, own⟩ := handledFor_quiet connection trace system (.sendNewline room) rfl
  obtain ⟨buf, fd, copied, sending, calls, rfl⟩ := sendNewline_cases taken
  obtain ⟨fits, unclosed⟩ := whole
  obtain ⟨stored, isOpen⟩ := inv.open calls unclosed
  obtain ⟨reached, is⟩ := Option.isSome_iff_exists.mp isOpen
  have text := inv.text
  rw [unsent_sending sending calls, if_pos rfl] at text
  have bytes : sendNow room crlf = crlf := List.take_of_length_le fits
  have delivered := inv.delivered
  rw [sending] at delivered
  exact
    { telnet := inv.telnet.sent (fun _ member => absurd member List.not_mem_nil)
      idle := fun _ => rfl
      delivered := by
        rw [delivered_snoc, all, delivered]
        exact List.append_nil _
      consecutive := by rw [all, own]; exact inv.consecutive
      current := by rw [all, own]; exact inv.current
      unpublished := inv.unpublished
      seen := by rw [own]; exact inv.seen
      text := by
        rw [own, ← text, bytes]
        show system.deliver fd crlf connection ++ [] = _
        rw [deliver_open (stored.symm.trans is), List.append_nil,
          show copied = some reached from is]
        simp only [Option.some.injEq] }

theorem clientInv_telnet {action : TelnetAction} (inv : ClientInv connection trace system)
    (taken : logStep system (.telnet action) = some next) :
    ClientInv connection (trace ++ [(system, .telnet action)]) next := by
  obtain ⟨all, own⟩ := handledFor_quiet connection trace system (.telnet action) rfl
  obtain ⟨quiet, telnet, stepped, rfl⟩ := telnet_cases taken
  obtain ⟨moves, calls⟩ := addresseeMoves_step inv.telnet quiet stepped
  have later := telnetInv_step inv.telnet stepped
  have delivered : logUse.delivered (trace ++ [(system, .telnet action)]) =
      handled (trace ++ [(system, .telnet action)]) ++ system.logger.pending := by
    rw [delivered_snoc, all, inv.delivered]
    exact List.append_nil _
  have text : system.received connection ++
      ({ system with telnet := telnet } : LogSystem).unsent connection =
      (handledFor connection trace).flatMap (fun buf => lineOf buf.value) := by
    rw [← inv.text, LogSystem.unsent, LogSystem.unsent, calls]
  have build (current : ∀ fd, telnet.clientFd = some fd →
        telnet.accepted.getLast? = some connection → handledFor connection trace <:+ handled trace)
      (unpublished : ∀ fd, telnet.task = .publishing fd → telnet.clientFd = none)
      (seen : handledFor connection trace ≠ [] → connection ∈ telnet.accepted ∧
        ∀ fd, telnet.task = .publishing fd → telnet.accepted.getLast? ≠ some connection) :
      ClientInv connection (trace ++ [(system, .telnet action)])
        { system with telnet := telnet } :=
    { telnet := later
      idle := fun notSending => calls.trans (inv.idle notSending)
      delivered := delivered
      consecutive := by rw [all, own]; exact inv.consecutive
      current := by rw [all, own]; exact current
      unpublished := unpublished
      seen := by rw [own]; exact seen
      text := by rw [own]; exact text }
  cases moves with
  | kept client accepted publishing =>
      apply build
      · rw [client, accepted]
        exact inv.current
      · intro fd is
        rw [client]
        exact inv.unpublished fd (publishing fd is)
      · intro some
        rw [accepted]
        exact ⟨(inv.seen some).1, fun fd is => (inv.seen some).2 fd (publishing fd is)⟩
  | accepted client fresh accepted =>
      apply build
      · intro fd is
        rw [client] at is
        cases is
      · exact fun _ _ => client
      · intro some
        have before := (inv.seen some).1
        rw [accepted, List.getLast?_concat]
        refine ⟨List.mem_append_left _ before, fun _ _ is => ?_⟩
        cases is
        -- a connection is accepted once
        have once := later.once
        rw [accepted] at once
        exact (List.nodup_append.mp once).2.2 _ before _ (List.mem_singleton_self _) rfl
  | published task client accepted polling =>
      apply build
      · intro fd _ last
        rw [accepted] at last
        by_cases some : handledFor connection trace = []
        · rw [some]
          exact List.nil_suffix
        · exact absurd last ((inv.seen some).2 _ task)
      · intro fd is
        rw [polling] at is
        cases is
      · intro some
        rw [accepted]
        refine ⟨(inv.seen some).1, fun fd is => ?_⟩
        rw [polling] at is
        cases is
  | cleared client accepted closing =>
      apply build
      · intro fd is
        rw [client] at is
        cases is
      · exact fun fd is => absurd is (closing fd)
      · intro some
        rw [accepted]
        exact ⟨(inv.seen some).1, fun fd is => absurd is (closing fd)⟩

theorem clientInv_step {action : LogAction} (inv : ClientInv connection trace system)
    (whole : SentWhole system action) (taken : logStep system action = some next) :
    ClientInv connection (trace ++ [(system, action)]) next := by
  cases action with
  | enqueue msg =>
      cases taken
      exact clientInv_enqueue inv msg
  | receive => exact clientInv_receive inv taken
  | forward => exact clientInv_forward inv taken
  | sendLine room => exact clientInv_sendLine inv whole taken
  | sendNewline room => exact clientInv_sendNewline inv whole taken
  | telnet action => exact clientInv_telnet inv taken

end Invariant

/-- Where every send is taken whole and none outlives its connection, each client reads the lines
of messages that follow each other in the log. -/
theorem log_reaches_client (created : Bool) (trace : List (LogSystem × LogAction))
    (final : LogSystem) (run : LogHistory created trace final)
    (whole : ∀ taken ∈ trace, SentWhole taken.1 taken.2) (connection : Connection SocketOwner) :
    ClientLog trace final connection := by
  have inv := run.invariant (ClientInv connection) SentWhole (clientInv_boot created)
    (fun _ _ _ _ _ inv whole taken => clientInv_step inv whole taken) whole
  refine ⟨inv.consecutive.trans ?_, inv.text⟩
  rw [inv.delivered]
  exact (List.prefix_append _ _).isInfix

def lateClient : List LogAction :=
  [.enqueue ⟨ascii "[STA] Connected - IP: 10.0.0.7", by decide⟩,
    .enqueue ⟨ascii "[ALERT] Sensor 'flow' DEAD", by decide⟩, .receive, .forward,
    .telnet (.accept 54), .enqueue ⟨ascii "[INFO]  Sensor 'flow' RECOVERED", by decide⟩,
    .telnet (.task false), .receive, .forward, .sendLine 26, .sendNewline 2, .receive, .forward,
    .sendLine 40]

theorem late_client_reads :
    ∃ final, ClientLog (Transition.execTrace logStep (LogSystem.boot true) lateClient) final
        ⟨0, .telnet⟩ ∧
      final.received ⟨0, .telnet⟩ =
        ascii "[ALERT] Sensor 'flow' DEAD\r\n[INFO]  Sensor 'flow' RECOVERED" := by
  obtain ⟨final, run, text⟩ := Transition.exists_run_of_exec lateClient
    (fun (final : LogSystem) => decide (final.received ⟨0, .telnet⟩ =
      ascii "[ALERT] Sensor 'flow' DEAD\r\n[INFO]  Sensor 'flow' RECOVERED"))
    (show (Transition.exec logStep (LogSystem.boot true) lateClient).any _ = true by
      decide +kernel)
  exact ⟨final, log_reaches_client true _ final run (by decide +kernel) ⟨0, .telnet⟩,
    of_decide_eq_true text⟩

end HydroGovernor
