import HydroGovernor.DnsServer
import HydroGovernor.Library.BoundedQueue
import HydroGovernor.Nvs

/-! The life of dns_task, from dns_server_start to the stop that the AP shutdown asks for, with
the datagrams that come in meanwhile. -/

namespace HydroGovernor

open Firmware
open Firmware.Transition (Run filterMap_snoc exec execTrace run_of_exec)

/-- A datagram with the address and the port it comes from. -/
structure DnsQuery where
  client : Nat × Nat
  request : Bytes
  deriving DecidableEq, Repr

/-- Where dns_task is. -/
inductive DnsPc where
  | absent
  | opening
  | binding
  | testing
  | receiving
  | serving (query : DnsQuery)
  | closing
  | ended
  deriving DecidableEq, Repr

/-- `running` is s_running. `mailbox` holds the datagrams that the socket has taken in, at most
`depth` of them. -/
structure DnsService (depth : Nat) where
  running : Bool
  pc : DnsPc
  isOpen : Bool
  bound : Bool
  mailbox : BoundedQueue DnsQuery depth
  buffers : DnsBuffers
  sent : List ((Nat × Nat) × Bytes)
  deriving DecidableEq, Repr

variable {depth : Nat}

def DnsService.off (buffers : DnsBuffers) : DnsService depth :=
  ⟨false, .absent, false, false, BoundedQueue.empty, buffers, []⟩

inductive DnsAction where
  | start (created : Bool)
  | stop
  | arrive (query : DnsQuery)
  | socket (ok : Bool)
  | bind (ok : Bool)
  | test
  | receive
  | timeout
  | serve
  | close
  deriving DecidableEq, Repr

namespace DnsService

def serve (service : DnsService depth) (query : DnsQuery) : DnsService depth :=
  let iteration := dnsIteration service.buffers (some query.request)
  { service with
    buffers := iteration.buffers
    sent := service.sent ++ (iteration.sent.map (fun sent => (query.client, sent.2))).toList
    pc := .testing }

end DnsService

def dnsStep (service : DnsService depth) : DnsAction → Option (DnsService depth)
  | .start created =>
      -- app_main starts the server once
      if service.pc = .absent then
        some { service with running := true, pc := if created then .opening else .ended }
      else none
  | .stop => some { service with running := false }
  | .arrive query =>
      if service.bound then some { service with mailbox := service.mailbox.send query }
      else some service
  | .socket ok =>
      if service.pc = .opening then
        if ok then some { service with isOpen := true, pc := .binding }
        else some { service with pc := .ended }
      else none
  | .bind ok =>
      if service.pc = .binding then
        if ok then some { service with bound := true, pc := .testing }
        else some { service with isOpen := false, pc := .ended }
      else none
  | .test =>
      if service.pc = .testing then
        some { service with pc := if service.running then .receiving else .closing }
      else none
  | .receive =>
      if service.pc = .receiving then
        service.mailbox.receive.map (fun item =>
          { service with mailbox := item.2, pc := .serving item.1 })
      else none
  | .timeout => if service.pc = .receiving then some { service with pc := .testing } else none
  | .serve =>
      match service.pc with
      | .serving query => some (service.serve query)
      | _ => none
  | .close =>
      if service.pc = .closing then
        some { service with isOpen := false, bound := false, pc := .ended }
      else none

abbrev DnsHistory (buffers : DnsBuffers) (trace : List (DnsService depth × DnsAction))
    (service : DnsService depth) : Prop :=
  Run dnsStep (DnsService.off buffers) trace service

/-- Everything that a step can do. -/
inductive DnsMoves (service : DnsService depth) : DnsAction → DnsService depth → Prop where
  | start (created : Bool) (absent : service.pc = .absent) :
      DnsMoves service (.start created)
        { service with running := true, pc := if created then .opening else .ended }
  | stop : DnsMoves service .stop { service with running := false }
  | arrive (query : DnsQuery) (bound : service.bound = true) :
      DnsMoves service (.arrive query) { service with mailbox := service.mailbox.send query }
  | refuse (query : DnsQuery) (unbound : service.bound = false) :
      DnsMoves service (.arrive query) service
  | socket (opening : service.pc = .opening) :
      DnsMoves service (.socket true) { service with isOpen := true, pc := .binding }
  | noSocket (opening : service.pc = .opening) :
      DnsMoves service (.socket false) { service with pc := .ended }
  | bind (binding : service.pc = .binding) :
      DnsMoves service (.bind true) { service with bound := true, pc := .testing }
  | noBind (binding : service.pc = .binding) :
      DnsMoves service (.bind false) { service with isOpen := false, pc := .ended }
  | test (testing : service.pc = .testing) :
      DnsMoves service .test
        { service with pc := if service.running then .receiving else .closing }
  | receive (query : DnsQuery) (rest : BoundedQueue DnsQuery depth)
      (receiving : service.pc = .receiving)
      (received : service.mailbox.receive = some (query, rest)) :
      DnsMoves service .receive { service with mailbox := rest, pc := .serving query }
  | timeout (receiving : service.pc = .receiving) :
      DnsMoves service .timeout { service with pc := .testing }
  | serve (query : DnsQuery) (serving : service.pc = .serving query) :
      DnsMoves service .serve (service.serve query)
  | close (closing : service.pc = .closing) :
      DnsMoves service .close { service with isOpen := false, bound := false, pc := .ended }

theorem dns_moves {service next : DnsService depth} {action : DnsAction}
    (taken : dnsStep service action = some next) : DnsMoves service action next := by
  cases action with
  | start created =>
      simp only [dnsStep] at taken
      split at taken <;> cases taken
      exact .start created ‹_›
  | stop =>
      cases taken
      exact .stop
  | arrive query =>
      simp only [dnsStep] at taken
      split at taken <;> cases taken
      · exact .arrive query ‹_›
      · exact .refuse query (Bool.not_eq_true _ ▸ ‹_›)
  | socket ok =>
      simp only [dnsStep] at taken
      split at taken
      · cases ok with
        | true => cases taken; exact .socket ‹_›
        | false => cases taken; exact .noSocket ‹_›
      · cases taken
  | bind ok =>
      simp only [dnsStep] at taken
      split at taken
      · cases ok with
        | true => cases taken; exact .bind ‹_›
        | false => cases taken; exact .noBind ‹_›
      · cases taken
  | test =>
      simp only [dnsStep] at taken
      split at taken <;> cases taken
      exact .test ‹_›
  | receive =>
      simp only [dnsStep] at taken
      split at taken
      · obtain ⟨⟨query, rest⟩, received, rfl⟩ := Option.map_eq_some_iff.mp taken
        exact .receive query rest ‹_› received
      · cases taken
  | timeout =>
      simp only [dnsStep] at taken
      split at taken <;> cases taken
      exact .timeout ‹_›
  | serve =>
      simp only [dnsStep] at taken
      split at taken <;> cases taken
      exact .serve _ ‹_›
  | close =>
      simp only [dnsStep] at taken
      split at taken <;> cases taken
      exact .close ‹_›

/-! The answers -/

/-- The socket offers what arrives to its mailbox, and recvfrom takes the oldest. -/
def dnsUse : BoundedQueue.Use (@dnsStep depth) DnsQuery depth where
  queue := DnsService.mailbox
  offer service action :=
    match action with
    | .arrive query => if service.bound then some query else none
    | _ => none
  take service action :=
    match action with
    | .receive => service.mailbox.receive.map Prod.fst
    | _ => none
  offered service action next item taken offers := by
    cases dns_moves taken with
    | arrive query bound =>
        rw [bound] at offers
        cases offers
        exact ⟨rfl, rfl⟩
    | refuse query unbound =>
        rw [unbound] at offers
        cases offers
    | _ => cases offers
  taken service action next item taken takes := by
    cases dns_moves taken with
    | receive query rest receiving received =>
        rw [received] at takes
        cases takes
        exact ⟨rfl, received⟩
    | _ => cases takes
  framed service action next taken offers takes := by
    cases dns_moves taken with
    | arrive query bound =>
        rw [bound] at offers
        cases offers
    | receive query rest receiving received =>
        rw [received] at takes
        cases takes
    | _ => rfl

/-- What a query is answered with; a runt is not answered. -/
def answerTo (query : DnsQuery) : Option ((Nat × Nat) × Bytes) :=
  if dnsHdrSize ≤ query.request.length then some (query.client, replyTo query.request) else none

/-- The query that dns_task has received and not answered yet. -/
def DnsPc.inHand : DnsPc → List DnsQuery
  | .serving query => [query]
  | _ => []

theorem serve_sent (service : DnsService depth) {query : DnsQuery}
    (short : query.request.length ≤ 496) :
    (service.serve query).sent = service.sent ++ (answerTo query).toList := by
  rw [DnsService.serve, answerTo]
  dsimp only
  by_cases header : dnsHdrSize ≤ query.request.length
  · rw [if_pos header, iteration_sent service.buffers header short]
    rfl
  · have runt : (received (some query.request)).length < dnsHdrSize := by
      rw [received, List.length_take]
      omega
    rw [if_neg header, dnsIteration, if_pos runt]
    rfl

/-- A datagram that fits the buffers with its answer. -/
def DnsAction.fits : DnsAction → Bool
  | .arrive query => query.request.length ≤ 496
  | _ => true

/-- The queries at hand fit the buffers, and those taken before have been answered. -/
structure Answered (trace : List (DnsService depth × DnsAction)) (service : DnsService depth) :
    Prop where
  short : ∀ query ∈ service.pc.inHand ++ service.mailbox.items, query.request.length ≤ 496
  account : service.sent ++ service.pc.inHand.filterMap answerTo =
    (dnsUse.delivered trace).filterMap answerTo

theorem Answered.kept {trace : List (DnsService depth × DnsAction)}
    {service next : DnsService depth} {action : DnsAction} (answered : Answered trace service)
    (untaken : dnsUse.take service action = none) (sent : next.sent = service.sent)
    (inHand : next.pc.inHand = service.pc.inHand)
    (short : ∀ query ∈ next.mailbox.items, query.request.length ≤ 496) :
    Answered (trace ++ [(service, action)]) next := by
  constructor
  case short =>
    intro query member
    rcases List.mem_append.mp member with held | waiting
    · exact answered.short query (List.mem_append_left _ (inHand ▸ held))
    · exact short query waiting
  case account =>
    rw [BoundedQueue.Use.delivered, filterMap_snoc, untaken, Option.toList_none, List.append_nil,
      sent, inHand]
    exact answered.account

theorem answered_step {trace : List (DnsService depth × DnsAction)}
    {service next : DnsService depth} {action : DnsAction} (answered : Answered trace service)
    (fits : action.fits = true) (taken : dnsStep service action = some next) :
    Answered (trace ++ [(service, action)]) next := by
  have waiting : ∀ query ∈ service.mailbox.items, query.request.length ≤ 496 :=
    fun query member => answered.short query (List.mem_append_right _ member)
  cases dns_moves taken with
  | stop | refuse => exact answered.kept rfl rfl rfl waiting
  | start created pc =>
      refine answered.kept rfl rfl ?_ waiting
      cases created <;> rw [pc] <;> rfl
  | socket pc | noSocket pc | bind pc | noBind pc | timeout pc | close pc =>
      exact answered.kept rfl rfl (by rw [pc]; rfl) waiting
  | test pc =>
      refine answered.kept rfl rfl ?_ waiting
      rw [pc]
      dsimp only
      split <;> rfl
  | arrive query bound =>
      refine answered.kept rfl rfl rfl ?_
      intro other member
      rw [BoundedQueue.send_items] at member
      split at member
      · rcases List.mem_append.mp member with old | new
        · exact waiting other old
        · rw [List.mem_singleton.mp new]
          exact of_decide_eq_true fits
      · exact waiting other member
  | receive query rest receiving received =>
      have items := BoundedQueue.receive_items received
      have took : dnsUse.take service .receive = some query := by
        simp only [dnsUse, received, Option.map_some]
      have account := answered.account
      rw [receiving] at account
      constructor
      case short =>
        intro other member
        exact waiting other (items ▸ member)
      case account =>
        rw [BoundedQueue.Use.delivered, filterMap_snoc, took, List.filterMap_append,
          ← BoundedQueue.Use.delivered, ← account]
        simp [DnsPc.inHand]
  | serve query serving =>
      have account := answered.account
      rw [serving] at account
      have fits : query.request.length ≤ 496 :=
        answered.short query (by rw [serving]; exact List.mem_cons_self)
      refine ⟨fun other member => waiting other member, ?_⟩
      have untaken : dnsUse.take service .serve = none := rfl
      have emptied : (service.serve query).pc.inHand = [] := rfl
      rw [BoundedQueue.Use.delivered, filterMap_snoc, untaken, Option.toList_none, List.append_nil,
        serve_sent service fits, emptied, ← BoundedQueue.Use.delivered, ← account]
      simp only [DnsPc.inHand, List.filterMap_cons, List.filterMap_nil, List.append_nil]
      cases answerTo query <;> rfl

def bareQuery (id : UInt8) : DnsQuery := ⟨(0xC0A80402, 5353), 0 :: id :: List.replicate 10 0⟩

def twoQueries : List DnsAction :=
  [.start true, .socket true, .bind true, .test, .arrive (bareQuery 1),
    .arrive ⟨(0xC0A80403, 53), [1, 2]⟩, .receive, .serve, .test, .arrive (bareQuery 2), .receive,
    .serve, .test, .receive]

def DnsPc.left : DnsPc → Nat
  | .opening | .receiving => 4
  | .binding | .serving _ => 3
  | .testing => 2
  | .closing => 1
  | .ended | .absent => 0

def DnsPc.holdsSocket : DnsPc → Bool
  | .binding | .testing | .receiving | .serving _ | .closing => true
  | .absent | .opening | .ended => false

def DnsPc.owes : DnsPc → Nat
  | .receiving | .serving _ => 1
  | _ => 0

def DnsAction.own : DnsAction → Bool
  | .start _ | .stop | .arrive _ => false
  | _ => true

theorem holdsSocket_step {service next : DnsService depth} {action : DnsAction}
    (holds : service.isOpen = service.pc.holdsSocket)
    (taken : dnsStep service action = some next) : next.isOpen = next.pc.holdsSocket := by
  cases dns_moves taken with
  | stop | arrive | refuse => exact holds
  | start created pc =>
      rw [pc] at holds
      cases created <;> exact holds
  | socket pc | noBind pc | close pc => rfl
  | noSocket pc | bind pc | timeout pc | serve query pc =>
      rw [pc] at holds
      exact holds
  | receive query rest pc received =>
      rw [pc] at holds
      exact holds
  | test pc =>
      rw [pc] at holds
      dsimp only
      split <;> exact holds

theorem stopped_step {service next : DnsService depth} {action : DnsAction}
    (stopped : service.running = false) (started : service.pc ≠ .absent)
    (taken : dnsStep service action = some next) :
    next.running = false ∧ next.pc ≠ .absent ∧
      next.sent.length + next.pc.owes ≤ service.sent.length + service.pc.owes ∧
      next.pc.left + (if action.own then 1 else 0) ≤ service.pc.left := by
  cases dns_moves taken with
  | start created pc => exact absurd pc started
  | stop => exact ⟨rfl, started, le_refl _, le_refl _⟩
  | arrive | refuse => exact ⟨stopped, started, le_refl _, le_refl _⟩
  | socket pc | noSocket pc | bind pc | noBind pc | timeout pc | close pc =>
      rw [pc]
      exact ⟨stopped, by simp, by simp [DnsPc.owes], by simp [DnsPc.left, DnsAction.own]⟩
  | test pc =>
      rw [pc]
      simp [stopped, DnsPc.owes, DnsPc.left, DnsAction.own]
  | receive query rest pc received =>
      rw [pc]
      exact ⟨stopped, by simp, le_refl _, le_refl _⟩
  | serve query pc =>
      rw [pc]
      refine ⟨stopped, by simp [DnsService.serve], ?_, le_refl _⟩
      simp only [DnsService.serve, DnsPc.owes, List.length_append]
      cases (dnsIteration service.buffers (some query.request)).sent <;> simp

theorem own_step_left {service : DnsService depth} (started : service.pc ≠ .absent) :
    service.pc = .ended ∨ ∃ action : DnsAction, action.own = true ∧
      (dnsStep service action).isSome = true := by
  cases pc : service.pc with
  | absent => exact absurd pc started
  | ended => exact .inl rfl
  | opening => exact .inr ⟨.socket false, rfl, by simp [dnsStep, pc]⟩
  | binding => exact .inr ⟨.bind false, rfl, by simp [dnsStep, pc]⟩
  | testing => exact .inr ⟨.test, rfl, by simp [dnsStep, pc]⟩
  | receiving => exact .inr ⟨.timeout, rfl, by simp [dnsStep, pc]⟩
  | serving query => exact .inr ⟨.serve, rfl, by simp [dnsStep, pc]⟩
  | closing => exact .inr ⟨.close, rfl, by simp [dnsStep, pc]⟩

/-- Wherever dns_server_stop meets dns_task, at most one more answer goes out, the task is never
stuck and ends within four steps of its own, and a task that has ended has closed its socket. -/
theorem dns_stops {buffers : DnsBuffers} {front back : List (DnsService depth × DnsAction)}
    {state final : DnsService depth}
    (history : DnsHistory buffers (front ++ (state, .stop) :: back) final)
    (started : state.pc ≠ .absent) :
    final.sent.length ≤ state.sent.length + 1 ∧
      back.countP (fun taken => taken.2.own) ≤ 4 ∧
      (final.pc = .ended ∨ ∃ action : DnsAction, action.own = true ∧
        (dnsStep final action).isSome = true) ∧
      (final.pc = .ended → final.isOpen = false) := by
  obtain ⟨next, _, stopped, after⟩ := history.before rfl
  cases stopped
  have holds : final.isOpen = final.pc.holdsSocket :=
    history.invariant_state (fun service => service.isOpen = service.pc.holdsSocket) rfl
      (fun _ _ _ holds taken => holdsSocket_step holds taken)
  obtain ⟨⟨_, alive, sent⟩, steps⟩ := after.ranked
    (fun service => service.running = false ∧ service.pc ≠ .absent ∧
      service.sent.length + service.pc.owes ≤ state.sent.length + state.pc.owes)
    (fun _ action => action.own) (fun service => service.pc.left) ⟨rfl, started, le_refl _⟩
    (fun service action next inv taken => by
      obtain ⟨quiet, alive, sent, left⟩ := stopped_step inv.1 inv.2.1 taken
      exact ⟨⟨quiet, alive, sent.trans inv.2.2⟩, left⟩)
  have owed : state.pc.owes ≤ 1 := by cases state.pc <;> simp [DnsPc.owes]
  have most : state.pc.left ≤ 4 := by cases state.pc <;> simp [DnsPc.left]
  refine ⟨by omega, ?_, own_step_left alive, fun ended => ?_⟩
  · exact (Nat.le_add_left _ _).trans (steps.trans most)
  · rw [holds, ended]
    rfl

def stoppedFront : List DnsAction := [.start true, .socket true, .bind true, .test]

def stoppedBack : List DnsAction :=
  [.arrive (bareQuery 1), .arrive (bareQuery 2), .receive, .serve, .test, .close]

def stoppedState : DnsService 6 :=
  { DnsService.off zeroBuffers with
    running := true
    pc := .receiving
    isOpen := true
    bound := true }

theorem stopped_in_receive :
    ∃ final : DnsService 6, DnsHistory zeroBuffers
        (execTrace dnsStep (DnsService.off zeroBuffers) (stoppedFront ++ .stop :: stoppedBack))
        final ∧
      final.sent.length ≤ 0 + 1 ∧ final.isOpen = false := by
  obtain ⟨final, run, ended⟩ := Transition.exists_run_of_exec
    (stoppedFront ++ .stop :: stoppedBack)
    (fun (service : DnsService 6) => decide (service.pc = .ended))
    (show (exec dnsStep (DnsService.off zeroBuffers) _).any _ = true by decide +kernel)
  have split : execTrace dnsStep (DnsService.off zeroBuffers : DnsService 6)
      (stoppedFront ++ .stop :: stoppedBack) =
        execTrace dnsStep (DnsService.off zeroBuffers) stoppedFront ++ (stoppedState, .stop) ::
          execTrace dnsStep { stoppedState with running := false } stoppedBack := by
    decide +kernel
  obtain ⟨sent, _, _, closed⟩ := dns_stops (split ▸ run) (by decide)
  exact ⟨final, run, sent, closed (of_decide_eq_true ended)⟩

end HydroGovernor
