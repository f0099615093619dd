import HydroGovernor.PortalOutcome

/-! What the polls of the setup page are told: s_state is read when the request arrives, s_ip
before the answer, and events of the link may come in between. -/

namespace HydroGovernor

open Firmware

/-- What a poll's handler read for one chain: s_state when the request came, and s_ip before the
answer. -/
structure PollReads where
  state : MgrState
  ip : Bytes
  deriving DecidableEq, Repr

def observePoll (index : Nat) (reads : Option PollReads) (taken : Portal × PortalAction) :
    Option PollReads :=
  match taken.2 with
  | .arrive other _ =>
      if other = index then some ⟨taken.1.system.device.state, taken.1.ip⟩ else reads
  | .respond =>
      if taken.1.serving.bind Serving.chain = some index then
        reads.map (fun reads => { reads with ip := taken.1.ip })
      else reads
  | _ => reads

/-- The reads for the last request of this chain that the device got. -/
def pollReads (index : Nat) (trace : List (Portal × PortalAction)) : Option PollReads :=
  trace.foldl (observePoll index) none

/-- s_ip held an address or nothing, and an address where the state was CONNECTED. -/
def PollReads.Known (reads : PollReads) : Prop :=
  ∃ address, reads.ip = ipText address ∧ (reads.state = .connected → address.isSome = true)

/-! What the handlers and the answers have from the reads -/

def Handler.ReadFrom (reads : Option PollReads) : Handler → Prop
  | .save _ _ => True
  | .status => ∃ ip, reads = some ⟨.connected, ip⟩
  | .dash connected => ∃ state ip, reads = some ⟨state, ip⟩ ∧ connected = (state == .connected)

def Chain.ReadFrom (reads : Option PollReads) : Chain → Prop
  | .answered .status body =>
      ∃ found, reads = some found ∧ found.Known ∧ body = statusReply found.state found.ip
  | .answered .dash body =>
      ∃ found, reads = some found ∧ found.Known ∧
        body = dashReply (found.state == .connected) found.ip
  | _ => True

structure PollInv (trace : List (Portal × PortalAction)) (portal : Portal) : Prop where
  serving : ∀ serving index, portal.serving = some serving → serving.chain = some index →
    serving.handler.ReadFrom (pollReads index trace)
  chains : ∀ (index : Nat) (chain : Chain), portal.chains[index]? = some chain →
    chain.ReadFrom (pollReads index trace)

section
variable {trace : List (Portal × PortalAction)} {portal next : Portal} {action : PortalAction}

theorem pollReads_snoc (index : Nat) (trace : List (Portal × PortalAction))
    (taken : Portal × PortalAction) :
    pollReads index (trace ++ [taken]) = observePoll index (pollReads index trace) taken := by
  rw [pollReads, List.foldl_append]
  rfl

theorem pollReads_arrive (trace : List (Portal × PortalAction)) (portal : Portal) (index : Nat)
    (offered : Option Nat) :
    pollReads index (trace ++ [(portal, .arrive index offered)]) =
      some ⟨portal.system.device.state, portal.ip⟩ := by
  rw [pollReads_snoc]
  exact if_pos rfl

theorem pollReads_other {index other : Nat} (apart : other ≠ index) (offered : Option Nat) :
    pollReads other (trace ++ [(portal, .arrive index offered)]) = pollReads other trace := by
  rw [pollReads_snoc]
  exact if_neg apart.symm

theorem PollInv.set_chain (poll : PollInv trace portal) {index : Nat} {chain : Chain}
    (kept : ∀ other, other ≠ index →
      pollReads other (trace ++ [(portal, action)]) = pollReads other trace)
    (new : chain.ReadFrom (pollReads index (trace ++ [(portal, action)])))
    (other : Nat) (found : Chain)
    (at_other : (portal.chains.set index chain)[other]? = some found) :
    found.ReadFrom (pollReads other (trace ++ [(portal, action)])) := by
  rw [List.getElem?_set] at at_other
  split at at_other
  · rename_i same
    subst same
    split at at_other <;> cases at_other
    exact new
  · rename_i apart
    rw [kept other (Ne.symm apart)]
    exact poll.chains other found at_other

theorem PollInv.kept (poll : PollInv trace portal)
    (unread : ∀ index, pollReads index (trace ++ [(portal, action)]) = pollReads index trace)
    (serving : ∀ serving index, next.serving = some serving → serving.chain = some index →
      (∃ reply ret, serving.handler = .save reply ret) ∨
        ∃ before, portal.serving = some before ∧ before.chain = some index ∧
          before.handler = serving.handler)
    (chains : ∀ (index : Nat) (chain : Chain), next.chains[index]? = some chain →
      portal.chains[index]? = some chain ∨ ∀ reads, chain.ReadFrom reads) :
    PollInv (trace ++ [(portal, action)]) next where
  serving found index is served := by
    rw [unread]
    rcases serving found index is served with ⟨reply, ret, isSave⟩ | ⟨before, was, same, handler⟩
    · rw [isSave]
      exact trivial
    · rw [← handler]
      exact poll.serving before index was same
  chains index chain is := by
    rw [unread]
    rcases chains index chain is with was | silent
    · exact poll.chains index chain was
    · exact silent _

theorem PollInv.move (poll : PollInv trace portal)
    (unread : ∀ index, pollReads index (trace ++ [(portal, action)]) = pollReads index trace)
    {index : Nat} {chain : Chain} (silent : ∀ reads, chain.ReadFrom reads)
    (chains : next.chains = portal.chains.set index chain)
    (serving : next.serving = portal.serving) : PollInv (trace ++ [(portal, action)]) next := by
  apply poll.kept unread
  · intro found index is served
    exact .inr ⟨found, serving ▸ is, served, rfl⟩
  · intro other found is
    rw [chains, List.getElem?_set] at is
    split at is
    · split at is <;> cases is
      exact .inr silent
    · exact .inl is

/-! The steps -/

theorem PollInv.device (poll : PollInv trace portal) {action : Action}
    (taken : portalStep portal (.device action) = some next) :
    PollInv (trace ++ [(portal, .device action)]) next := by
  simp only [portalStep] at taken
  split at taken
  case isFalse => cases taken
  obtain ⟨after, -, rfl⟩ := Option.map_eq_some_iff.mp taken
  rw [Portal.afterDevice]
  split
  · refine poll.kept (fun _ => pollReads_snoc _ _ _) ?_ (fun _ _ was => .inl was)
    intro serving index is
    cases is
  · refine poll.kept (fun _ => pollReads_snoc _ _ _) ?_ (fun _ _ was => .inl was)
    intro serving index is served
    obtain ⟨before, was, rfl⟩ := Option.map_eq_some_iff.mp is
    by_cases saves : ∃ reply ret, before.handler = .save reply ret
    · obtain ⟨chain, handler⟩ := before
      obtain ⟨reply, ret, rfl⟩ := saves
      obtain ⟨later, same⟩ := after_save portal.system action chain reply ret
      exact .inl ⟨reply, later, by rw [same]⟩
    · have same : Serving.after portal.system action before = before :=
        after_other (fun reply ret isSave => saves ⟨reply, ret, isSave⟩)
      rw [same] at served ⊢
      exact .inr ⟨before, was, served, rfl⟩

theorem PollInv.submit (poll : PollInv trace portal) {name password : Utf8.Text} {isOpen : Bool}
    (taken : portalStep portal (.submit name password isOpen) = some next) :
    PollInv (trace ++ [(portal, .submit name password isOpen)]) next := by
  simp only [portalStep] at taken
  split at taken <;> cases taken
  refine poll.kept (fun _ => pollReads_snoc _ _ _)
    (fun serving index is served => .inr ⟨serving, is, served, rfl⟩) ?_
  intro index chain is
  rw [List.getElem?_append] at is
  split at is
  · exact .inl is
  · rw [List.mem_singleton.mp (List.mem_of_getElem? is)]
    exact .inr (fun _ => trivial)

theorem PollInv.deliver (poll : PollInv trace portal) {index : Nat}
    (taken : portalStep portal (.deliver index) = some next) :
    PollInv (trace ++ [(portal, .deliver index)]) next := by
  simp only [portalStep] at taken
  split at taken
  case h_2 => cases taken
  rename_i call body was
  cases taken
  have moves (chain : Chain) (silent : ∀ reads, chain.ReadFrom reads) :
      PollInv (trace ++ [(portal, .deliver index)]) (portal.setChain index chain) :=
    poll.move (fun _ => pollReads_snoc _ _ _) silent rfl rfl
  unfold Portal.deliver
  split
  · apply moves
    cases call <;> exact fun _ => trivial
  · cases call with
    | save =>
        apply moves
        split <;> exact fun _ => trivial
    | status =>
        apply moves
        split
        · exact fun _ => trivial
        · split <;> exact fun _ => trivial
    | dash =>
        simp only
        split
        · refine poll.move (fun _ => pollReads_snoc _ _ _) ?_ rfl rfl
          exact fun _ => trivial
        · exact moves _ (fun _ => trivial)

theorem PollInv.reject (poll : PollInv trace portal) {index : Nat}
    (taken : portalStep portal (.reject index) = some next) :
    PollInv (trace ++ [(portal, .reject index)]) next := by
  obtain ⟨chain, was, moves⟩ := Option.bind_eq_some_iff.mp taken
  have silent (call : Call) (reads : Option PollReads) : call.rejected.ReadFrom reads := by
    cases call <;> exact trivial
  cases chain with
  | sent request =>
      cases moves
      exact poll.move (fun _ => pollReads_snoc _ _ _) (silent request.call) rfl rfl
  | answered call body =>
      cases moves
      exact poll.move (fun _ => pollReads_snoc _ _ _) (silent call) rfl rfl
  | served call =>
      cases moves
      refine poll.kept (fun _ => pollReads_snoc _ _ _) ?_ ?_
      · intro serving other is served
        obtain ⟨before, isServing, rfl⟩ := Option.map_eq_some_iff.mp is
        split at served
        · cases served
        · rename_i apart
          rw [if_neg apart]
          exact .inr ⟨before, isServing, served, rfl⟩
      · intro other found is
        simp only [Portal.setChain] at is
        rw [List.getElem?_set] at is
        split at is
        · split at is <;> cases is
          exact .inr (silent call)
        · exact .inl is
  | polling | preparing | retrying | ready | complete | failed | form => cases moves

theorem PollInv.timer (poll : PollInv trace portal) {index : Nat}
    (taken : portalStep portal (.timer index) = some next) :
    PollInv (trace ++ [(portal, .timer index)]) next := by
  obtain ⟨chain, was, moves⟩ := Option.bind_eq_some_iff.mp taken
  cases chain with
  | polling | preparing | retrying | ready =>
      cases moves
      refine poll.move (fun _ => pollReads_snoc _ _ _) ?_ rfl rfl
      exact fun _ => trivial
  | sent | served | answered | complete | failed | form => cases moves

/-- The handler reads s_state, and s_ip too unless it has to wait for it. -/
theorem PollInv.arrive (inv : PortalInv trace portal) (poll : PollInv trace portal) {index : Nat}
    {offered : Option Nat} (taken : portalStep portal (.arrive index offered) = some next) :
    PollInv (trace ++ [(portal, .arrive index offered)]) next := by
  simp only [portalStep] at taken
  split at taken
  case isFalse => cases taken
  rename_i free
  split at taken
  case h_2 => cases taken
  rename_i request was
  have now := pollReads_arrive trace portal index offered
  -- an answer of this chain, with nothing in service
  have answers (chain : Chain)
      (new : chain.ReadFrom (pollReads index (trace ++ [(portal, .arrive index offered)]))) :
      PollInv (trace ++ [(portal, .arrive index offered)]) (portal.setChain index chain) := by
    refine ⟨fun serving _ is => ?_,
      poll.set_chain (fun other apart => pollReads_other apart offered) new⟩
    cases free.1.symm.trans is
  -- a request in service for it
  have serves (handler : Handler) (system : System)
      (new : handler.ReadFrom (pollReads index (trace ++ [(portal, .arrive index offered)]))) :
      PollInv (trace ++ [(portal, .arrive index offered)])
        { portal.setChain index (.served handler.call) with
          system := system, serving := some ⟨some index, handler⟩ } := by
    refine ⟨?_, poll.set_chain (fun other apart => pollReads_other apart offered) trivial⟩
    rintro serving other ⟨⟩ ⟨⟩
    exact new
  cases request with
  | save body =>
      simp only [Portal.arrive] at taken
      split at taken
      · obtain ⟨after, -, rfl⟩ := Option.map_eq_some_iff.mp taken
        exact serves _ after trivial
      · cases taken
        exact answers _ trivial
  | status =>
      simp only [Portal.arrive] at taken
      split at taken
      · rename_i connected
        cases taken
        refine serves .status portal.system ⟨portal.ip, ?_⟩
        rw [now, connected]
      · rename_i notConnected
        cases taken
        exact answers _ ⟨_, now, ⟨lastAddress trace, inv.address, fun is => absurd is notConnected⟩,
          rfl⟩
  | dash =>
      cases taken
      exact serves (.dash _) portal.system ⟨_, _, now, rfl⟩

theorem PollInv.respond (inv : PortalInv trace portal) (poll : PollInv trace portal)
    (taken : portalStep portal .respond = some next) :
    PollInv (trace ++ [(portal, .respond)]) next := by
  have reads (index : Nat) : pollReads index (trace ++ [(portal, .respond)]) =
      if portal.serving.bind Serving.chain = some index then
        (pollReads index trace).map (fun reads => { reads with ip := portal.ip })
      else pollReads index trace :=
    pollReads_snoc index trace _
  -- the answer goes to the chain that waits for it, if one still does
  have answers (chain : Option Nat) (call : Call) (body : Bytes)
      (isChain : portal.serving.bind Serving.chain = chain)
      (new : ∀ index, chain = some index →
        (Chain.answered call body).ReadFrom (pollReads index (trace ++ [(portal, .respond)]))) :
      PollInv (trace ++ [(portal, .respond)]) (portal.answer chain call body) := by
    refine ⟨nofun, ?_⟩
    cases chain with
    | none =>
        intro index found is
        rw [reads, if_neg (by rw [isChain]; exact nofun)]
        exact poll.chains index found is
    | some index =>
        refine poll.set_chain (fun other apart => ?_) (new index rfl)
        rw [reads, if_neg (fun same => apart ?_)]
        exact Option.some.inj (same.symm.trans isChain)
  simp only [portalStep, Portal.respond] at taken
  split at taken
  · cases taken
  · rename_i chain reply ret isServing
    split at taken <;> cases taken
    exact answers chain .save _ (by rw [isServing]; rfl) (fun _ _ => trivial)
  · rename_i chain isServing
    cases taken
    refine answers chain .status _ (by rw [isServing]; rfl) ?_
    rintro index rfl
    obtain ⟨ip, before⟩ := poll.serving _ index isServing rfl
    refine ⟨⟨.connected, portal.ip⟩, ?_, ⟨lastAddress trace, inv.address, fun _ => ?_⟩, rfl⟩
    · rw [reads, isServing, before]
      exact if_pos rfl
    · exact (inv.serving _ isServing).known (.inl rfl)
  · rename_i chain connected isServing
    cases taken
    refine answers chain .dash _ (by rw [isServing]; rfl) ?_
    rintro index rfl
    obtain ⟨state, ip, before, same⟩ := poll.serving _ index isServing rfl
    refine ⟨⟨state, portal.ip⟩, ?_, ⟨lastAddress trace, inv.address, fun is => ?_⟩, by rw [same]⟩
    · rw [reads, isServing, before]
      exact if_pos rfl
    · cases is
      exact (inv.serving _ isServing).known (.inr (by rw [same]; rfl))

theorem pollInv_of_history {nvs : Nvs} (run : PortalHistory nvs trace portal) :
    PollInv trace portal := by
  induction run with
  | nil => exact ⟨nofun, nofun⟩
  | @snoc trace state next action earlier taken ih =>
      have inv := portalInv_of_history earlier
      cases action with
      | device action => exact ih.device taken
      | assign address =>
          simp only [portalStep] at taken
          split at taken <;> cases taken
          exact ih.kept (fun _ => pollReads_snoc _ _ _)
            (fun serving _ is served => .inr ⟨serving, is, served, rfl⟩) (fun _ _ was => .inl was)
      | submit name password isOpen => exact ih.submit taken
      | arrive index offered => exact PollInv.arrive inv ih taken
      | respond => exact PollInv.respond inv ih taken
      | deliver index => exact ih.deliver taken
      | reject index => exact ih.reject taken
      | timer index => exact ih.timer taken

end

/-- Every answer to a poll fits its buffer and is the object of what the handler read, however far
apart it read s_state and s_ip, and it speaks of no connection without an address. -/
theorem portal_polls_read (nvs : Nvs) (trace : List (Portal × PortalAction)) (final : Portal)
    (run : PortalHistory nvs trace final) (index : Nat) (body : Bytes) :
    (final.chains[index]? = some (.answered .status body) →
      ∃ reads address, pollReads index trace = some reads ∧ reads.ip = ipText address ∧
        body.length + 1 < statusTextSize ∧
        Json.read (utf8Reading.text body) = some (statusValue reads.state address) ∧
        (reads.state = .connected → address.isSome = true)) ∧
    (final.chains[index]? = some (.answered .dash body) →
      ∃ reads address, pollReads index trace = some reads ∧ reads.ip = ipText address ∧
        body.length + 1 < dashTextSize ∧
        Json.read (utf8Reading.text body) =
          some (dashValue (reads.state == .connected) address) ∧
        (reads.state = .connected → address.isSome = true)) := by
  have poll := pollInv_of_history run
  constructor
  · intro answered
    obtain ⟨reads, told, ⟨address, isIp, given⟩, rfl⟩ := poll.chains index _ answered
    rw [isIp]
    exact ⟨reads, address, told, isIp, statusReply_length _ address, read_statusReply _ address,
      given⟩
  · intro answered
    obtain ⟨reads, told, ⟨address, isIp, given⟩, rfl⟩ := poll.chains index _ answered
    rw [isIp]
    exact ⟨reads, address, told, isIp, dashReply_length _ address, read_dashReply _ address,
      given⟩

def answeredTrace : List (Portal × PortalAction) :=
  Transition.execTrace portalStep (Portal.powerOn Nvs.erased) (formOnline.take 22)

theorem home_poll_read :
    ∃ reads address, pollReads 0 answeredTrace = some reads ∧ reads.ip = ipText address ∧
      (dashReply true (ipText (some ⟨192, 168, 1, 17⟩))).length + 1 < dashTextSize ∧
      Json.read (utf8Reading.text (dashReply true (ipText (some ⟨192, 168, 1, 17⟩)))) =
        some (dashValue (reads.state == .connected) address) ∧
      (reads.state = .connected → address.isSome = true) := by
  obtain ⟨final, run, answered⟩ := Transition.exists_run_of_exec (formOnline.take 22)
    (fun final : Portal => final.chains[0]? ==
      some (.answered .dash (dashReply true (ipText (some ⟨192, 168, 1, 17⟩)))))
    (show (Transition.exec portalStep (Portal.powerOn Nvs.erased) _).any _ = true by
      decide +kernel)
  exact (portal_polls_read Nvs.erased answeredTrace final run 0 _).2 (beq_iff_eq.mp answered)

end HydroGovernor
