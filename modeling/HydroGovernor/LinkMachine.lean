import HydroGovernor.Tasks

/-! The life of s_state and s_retry_count apart from the rest of the device: an abstract machine
that goes by the events of a history. -/

namespace HydroGovernor

open Firmware
open Firmware.Transition (Run)

/-! The machine -/

structure LinkView where
  state : MgrState
  retries : Nat
  deriving DecidableEq, Repr

/-- What can happen to the link. `stage` is the begin of an attempt, `enter` the moment from which
it counts, and `refused` a driver call that fails at once. -/
inductive LinkEvent where
  | powerOn
  | provision
  | start
  | stage
  | enter
  | gotIp
  | disconnect
  | refused
  deriving DecidableEq, Repr

namespace LinkView

def off : LinkView := ⟨.idle, 0⟩

def after (view : LinkView) : LinkEvent → LinkView
  | .powerOn => off
  | .provision => { view with state := .apOnly }
  | .start => ⟨.connecting, 0⟩
  | .stage => { view with retries := 0 }
  | .enter => { view with state := .connecting }
  | .gotIp => { view with state := .connected }
  | .disconnect =>
      match view.state with
      | .connecting =>
          if view.retries < 1 then { view with retries := view.retries + 1 }
          else { view with state := .failed }
      | .connected => { view with state := .failed }
      | _ => view
  | .refused => { view with state := .failed }

def afterAll (view : LinkView) (events : List LinkEvent) : LinkView := events.foldl after view

end LinkView

def LinkEvent.resets : LinkEvent → Bool
  | .powerOn | .start | .stage => true
  | _ => false

/-! The machine of the device -/

def Device.linkView (device : Device) : LinkView := ⟨device.state, device.retryCount⟩

def linkEvent (system : System) : Action → Option LinkEvent
  | .gotIp _ => some .gotIp
  | .disconnected _ _ => some .disconnect
  | .restart => some .powerOn
  | .init flash => if (nvsInit flash system.device.nvs).1 = .ok then none else some .powerOn
  | .boot opens _ =>
      if (nvsRead opens system.device.nvs).isSome then some .start else some .provision
  | .httpd ret =>
      match system.httpd with
      | .connectStage _ _ _ _ => some .stage
      | .connectEnter _ => some .enter
      | .connectConfigure _ => if ret = .ok then none else some .powerOn
      | .connectLaunch => if ret = .ok then none else some .refused
      | _ => none
  | .main ret _ =>
      match system.main with
      | .restarting => some .powerOn
      | .reconnectTarget _ _ => some .stage
      | .reconnectEnter _ _ => some .enter
      | .reconnectLaunch _ => if ret = .ok then none else some .refused
      | _ => none
  | _ => none

def linkEvents (trace : List (System × Action)) : List LinkEvent :=
  trace.filterMap (fun taken => linkEvent taken.1 taken.2)

theorem onDisconnected_view (device : Device) (reason : Reason) (outcome : NvsOutcome) :
    (device.onDisconnected reason outcome).linkView = device.linkView.after .disconnect := by
  by_cases connected : device.state = .connected
  · simp [Device.onDisconnected_connected connected, Device.linkView, LinkView.after, connected]
  by_cases connecting : device.state = .connecting
  · by_cases unused : device.retryCount < 1
    · simp [Device.onDisconnected_retry connecting unused, Device.linkView, LinkView.after,
        connecting, unused]
    · simp [Device.onDisconnected_final connecting unused, Device.linkView, LinkView.after,
        Device.attemptFailed, Device.clearPendingCredentials, connecting, unused]
  · rw [Device.onDisconnected_other connected connecting]
    cases state : device.state <;> simp_all [Device.linkView, LinkView.after]

theorem httpdStep_view {system next : System} {ret : EspErr}
    (taken : httpdStep system ret = some next) :
    next.device.linkView =
      (linkEvent system (.httpd ret)).elim system.device.linkView system.device.linkView.after := by
  unfold httpdStep at taken
  cases pc : system.httpd with
  | connectConfigure config | connectLaunch =>
      simp only [pc] at taken
      split at taken <;> cases taken
      · rename_i ok
        simp only [linkEvent, pc, ok, if_true]
        rfl
      · rename_i failed
        simp only [linkEvent, pc, if_neg failed]
        rfl
  | connectAlign config pointer =>
      simp only [pc, Option.some.injEq] at taken
      subst taken
      obtain ⟨channel, aligned⟩ := system.device.alignChannel_frame pointer
      simp only [linkEvent, pc, aligned]
      rfl
  | _ =>
      simp only [pc] at taken
      (try split at taken) <;> cases taken <;> (simp only [linkEvent, pc]; rfl)

theorem mainStep_view {system next : System} {ret : EspErr} {outcome : NvsOutcome}
    (taken : mainStep system ret outcome = some next) :
    next.device.linkView = (linkEvent system (.main ret outcome)).elim system.device.linkView
      system.device.linkView.after := by
  unfold mainStep at taken
  cases pc : system.main with
  | bootWait since =>
      simp only [pc] at taken
      repeat' (split at taken)
      all_goals
        cases taken
        try (simp only [linkEvent, pc]; rfl)
  | reconnectLaunch now =>
      simp only [pc] at taken
      split at taken <;> cases taken
      · rename_i ok
        simp only [linkEvent, pc, ok, if_true]
        rfl
      · rename_i failed
        simp only [linkEvent, pc, if_neg failed]
        rfl
  | _ =>
      simp only [pc] at taken
      (try split at taken) <;> cases taken <;> (simp only [linkEvent, pc]; rfl)

/-- Every step of the device is an event of the machine, or none. -/
theorem step_view {system next : System} {action : Action}
    (taken : step system action = some next) :
    next.device.linkView =
      (linkEvent system action).elim system.device.linkView system.device.linkView.after := by
  cases action with
  | httpd ret => exact httpdStep_view taken
  | main ret outcome => exact mainStep_view taken
  | disconnected reason outcome =>
      obtain ⟨-, rfl⟩ := disconnected_cases taken
      exact onDisconnected_view _ reason outcome
  | gotIp outcome =>
      obtain ⟨-, rfl⟩ := gotIp_cases taken
      obtain ⟨_, _, _, frame⟩ := system.device.onGotIp_frame outcome
      rw [frame]
      rfl
  | delayed index =>
      obtain ⟨_, _, _, _, rfl⟩ := delayedStep_writes taken
      rfl
  | init flash =>
      obtain ⟨-, rfl⟩ := init_cases taken
      rcases initStep_cases system flash with ⟨ok, ready⟩ | ⟨failed, aborted⟩
      · rw [ready, linkEvent, if_pos ok]
        rfl
      · rw [aborted, linkEvent, if_neg failed]
        rfl
  | boot opens driver =>
      rcases (boot_cases taken).2 with ⟨none, rfl⟩ | ⟨creds, read, rfl⟩
      · rw [linkEvent, none]
        rfl
      · rw [linkEvent, read]
        rfl
  | restart =>
      cases taken
      rfl
  | _ =>
      simp only [step] at taken
      repeat' (split at taken)
      all_goals
        cases taken
        try rfl

theorem view_of_run {start final : System} {trace : List (System × Action)}
    (run : Run step start trace final) :
    final.device.linkView = start.device.linkView.afterAll (linkEvents trace) := by
  induction run with
  | nil => rfl
  | snoc _ taken ih =>
      rw [linkEvents, Transition.filterMap_snoc, LinkView.afterAll, List.foldl_append,
        step_view taken, ih]
      cases linkEvent _ _ <;> rfl

/-! Retries -/

namespace LinkView

theorem after_retries (view : LinkView) {event : LinkEvent} (keeps : event.resets = false) :
    view.retries ≤ (view.after event).retries := by
  cases event with
  | powerOn | start | stage => cases keeps
  | disconnect =>
      simp only [after]
      split
      · split
        · exact Nat.le_succ _
        · exact Nat.le_refl _
      · exact Nat.le_refl _
      · exact Nat.le_refl _
  | _ => exact Nat.le_refl _

theorem afterAll_retries (view : LinkView) {events : List LinkEvent}
    (keep : ∀ event ∈ events, event.resets = false) :
    view.retries ≤ (view.afterAll events).retries := by
  induction events generalizing view with
  | nil => exact Nat.le_refl _
  | cons event events ih =>
      have first := view.after_retries (keep event List.mem_cons_self)
      exact first.trans (ih _ (fun other member => keep other (List.mem_cons_of_mem _ member)))

end LinkView

/-- The event handler answers a disconnect with another esp_wifi_connect. -/
def retries (system : System) : Action → Prop
  | .disconnected _ _ => system.device.state = .connecting ∧ system.device.retryCount < 1
  | _ => False

instance (system : System) : (action : Action) → Decidable (retries system action)
  | .disconnected _ _ => inferInstanceAs (Decidable (_ ∧ _))
  | .tick _ | .staStart | .staConnected | .gotIp _ | .scanDone | .scanPublish _ | .getRoot
  | .postApShutdown | .postSave .. | .getScan | .httpd _ | .init _ | .boot .. | .main ..
  | .delayed _ | .restart => isFalse id

def beginsAttempt (system : System) (action : Action) : Bool :=
  (linkEvent system action).any LinkEvent.resets

theorem retries_view {system next : System} {action : Action} (retried : retries system action)
    (taken : step system action = some next) : 1 ≤ next.device.linkView.retries := by
  cases action with
  | disconnected reason outcome =>
      obtain ⟨connecting, unused⟩ := retried
      obtain ⟨-, rfl⟩ := disconnected_cases taken
      rw [Device.onDisconnected_retry connecting unused]
      exact Nat.le_add_left 1 _
  | _ => exact absurd retried id

/-- Between two automatic retries a new attempt has begun, or the device has been restarted. -/
theorem one_retry_each_attempt (nvs : Nvs) (trace : List (System × Action)) (final : System)
    (run : History nvs trace final) (front middle back : List (System × Action))
    (first second : System × Action) (split : trace = front ++ first :: (middle ++ second :: back))
    (retried : retries first.1 first.2) (again : retries second.1 second.2) :
    ∃ taken ∈ middle, beginsAttempt taken.1 taken.2 = true := by
  obtain ⟨next, -, taken, later⟩ := run.before split
  obtain ⟨_, between, -, -⟩ := later.before rfl
  by_contra none
  have keep : ∀ event ∈ linkEvents middle, event.resets = false := by
    intro event member
    obtain ⟨pair, inside, is⟩ := List.mem_filterMap.mp member
    by_contra resets
    refine none ⟨pair, inside, ?_⟩
    rw [beginsAttempt, is]
    exact Bool.not_eq_false _ ▸ resets
  have grown := next.device.linkView.afterAll_retries keep
  rw [← view_of_run between] at grown
  have used := (retries_view retried taken).trans grown
  obtain ⟨system, action⟩ := second
  cases action with
  | disconnected reason outcome => exact absurd again.2 (Nat.not_lt.mpr used)
  | _ => exact again

def twoAttempts : List Action :=
  [.init .ready, .boot .ok noScan] ++
    serveSave (CString.ofBuffer (ascii "home")) (CString.ofBuffer (ascii "first guess")) false ++
    [.disconnected 15 .success, .disconnected 15 .success] ++
    serveSave (CString.ofBuffer (ascii "home")) (CString.ofBuffer (ascii "second guess")) false ++
    [.disconnected 15 .success]

def twoAttemptsTrace : List (System × Action) :=
  Transition.execTrace step (System.powerOn Nvs.erased) twoAttempts

def atAttempt (index : Nat) : System :=
  (Transition.exec step (System.powerOn Nvs.erased) (twoAttempts.take index)).getD
    (System.powerOn Nvs.erased)

theorem twoAttempts_split :
    twoAttemptsTrace = twoAttemptsTrace.take 10 ++
      (atAttempt 10, .disconnected 15 .success) :: ((twoAttemptsTrace.drop 11).take 9 ++
        [(atAttempt 20, .disconnected 15 .success)]) := by
  decide +kernel

theorem two_attempts_two_retries :
    retries (atAttempt 10) (.disconnected 15 .success) ∧
      retries (atAttempt 20) (.disconnected 15 .success) ∧
      ∃ taken ∈ (twoAttemptsTrace.drop 11).take 9, beginsAttempt taken.1 taken.2 = true := by
  have first : retries (atAttempt 10) (.disconnected 15 .success) := by decide +kernel
  have second : retries (atAttempt 20) (.disconnected 15 .success) := by decide +kernel
  obtain ⟨final, run, -⟩ := exists_history Nvs.erased twoAttempts (fun _ => true)
    (by decide +kernel)
  exact ⟨first, second, one_retry_each_attempt Nvs.erased _ final run _ _ _ _ _ twoAttempts_split
    first second⟩

/-! Where CONNECTED and FAILED come from -/

/-- Why a link that was tried is given up: the driver refused, an address was lost again, or the
retry was used. -/
def GivenUp (events : List LinkEvent) : Prop :=
  .refused ∈ events ∨
    (∃ front back, events = front ++ .gotIp :: back ∧ .disconnect ∈ back) ∨
    2 ≤ events.count .disconnect

theorem GivenUp.append {events : List LinkEvent} (given : GivenUp events)
    (later : List LinkEvent) : GivenUp (events ++ later) := by
  rcases given with refused | ⟨front, back, split, lost⟩ | twice
  · exact .inl (List.mem_append_left _ refused)
  · refine .inr (.inl ⟨front, back ++ later, ?_, List.mem_append_left _ lost⟩)
    rw [split, List.append_assoc, List.cons_append]
  · refine .inr (.inr (twice.trans ?_))
    rw [List.count_append]
    exact Nat.le_add_right _ _

namespace LinkView

theorem afterAll_append (view : LinkView) (front back : List LinkEvent) :
    view.afterAll (front ++ back) = (view.afterAll front).afterAll back :=
  List.foldl_append

theorem after_connected {view : LinkView} {event : LinkEvent}
    (connected : (view.after event).state = .connected) :
    event = .gotIp ∨ view.state = .connected := by
  cases event with
  | gotIp => exact .inl rfl
  | stage => exact .inr connected
  | disconnect =>
      simp only [after] at connected
      split at connected
      · rename_i connecting
        split at connected
        · cases connecting.symm.trans connected
        · cases connected
      · cases connected
      · exact .inr connected
  | powerOn | provision | start | enter | refused => cases connected

theorem connected_cause {view : LinkView} {events : List LinkEvent}
    (before : view.state ≠ .connected) (connected : (view.afterAll events).state = .connected) :
    .gotIp ∈ events := by
  induction events generalizing view with
  | nil => exact absurd connected before
  | cons event events ih =>
      by_cases now : (view.after event).state = .connected
      · rcases after_connected now with rfl | was
        · exact List.mem_cons_self
        · exact absurd was before
      · exact List.mem_cons_of_mem _ (ih now connected)

theorem after_retries_le (view : LinkView) (event : LinkEvent) :
    (view.after event).retries ≤ view.retries + [event].count .disconnect := by
  cases event with
  | disconnect =>
      simp only [after, List.count_singleton_self]
      split
      · split
        · exact Nat.le_refl _
        · exact Nat.le_succ _
      · exact Nat.le_succ _
      · exact Nat.le_succ _
  | _ => simp [after, off]

theorem afterAll_retries_le (view : LinkView) (events : List LinkEvent) :
    (view.afterAll events).retries ≤ view.retries + events.count .disconnect := by
  induction events generalizing view with
  | nil => exact Nat.le_refl _
  | cons event events ih =>
      have first := view.after_retries_le event
      have later := ih (view.after event)
      have counts : (event :: events).count .disconnect =
          [event].count .disconnect + events.count .disconnect := by
        rw [← List.singleton_append, List.count_append]
      show ((view.after event).afterAll events).retries ≤ _
      omega

theorem after_failed {view : LinkView} {event : LinkEvent}
    (failed : (view.after event).state = .failed) :
    event = .refused ∨ view.state = .failed ∨
      (event = .disconnect ∧ (view.state = .connected ∨ 1 ≤ view.retries)) := by
  cases event with
  | refused => exact .inl rfl
  | stage => exact .inr (.inl failed)
  | disconnect =>
      simp only [after] at failed
      split at failed
      · rename_i connecting
        split at failed
        · cases connecting.symm.trans failed
        · rename_i used
          exact .inr (.inr ⟨rfl, .inr (Nat.not_lt.mp used)⟩)
      · rename_i connected
        exact .inr (.inr ⟨rfl, .inl connected⟩)
      · exact .inr (.inl failed)
  | powerOn | provision | start | enter | gotIp => cases failed

/-- From the begin of an attempt to FAILED, where the attempt counts in between. -/
theorem failed_cause {view : LinkView} {front back : List LinkEvent} (fresh : view.retries = 0)
    (failed : (view.afterAll (front ++ .enter :: back)).state = .failed) :
    GivenUp (front ++ .enter :: back) := by
  induction back using List.reverseRecOn with
  | nil =>
      rw [afterAll_append] at failed
      cases failed
  | append_singleton back event ih =>
      have split : front ++ .enter :: (back ++ [event]) = (front ++ .enter :: back) ++ [event] := by
        rw [List.append_assoc, List.cons_append]
      rw [split, afterAll_append] at failed
      rw [split]
      rcases after_failed failed with rfl | already | ⟨rfl, connected | used⟩
      · exact .inl (List.mem_append_right _ (List.mem_singleton_self _))
      · exact (ih already).append [event]
      · have entered : (view.afterAll (front ++ [.enter])).state ≠ .connected := by
          rw [afterAll_append]
          exact nofun
        rw [← List.singleton_append, ← List.append_assoc, afterAll_append] at connected
        obtain ⟨before, behind, online⟩ :=
          List.append_of_mem (connected_cause entered connected)
        refine .inr (.inl ⟨front ++ .enter :: before, behind ++ [.disconnect], ?_,
          List.mem_append_right _ (List.mem_singleton_self _)⟩)
        rw [online]
        simp
      · have bound := view.afterAll_retries_le (front ++ .enter :: back)
        rw [fresh] at bound
        refine .inr (.inr ?_)
        rw [List.count_append, List.count_singleton_self]
        omega

end LinkView

/-! AP_ONLY -/

theorem after_early (view : LinkView) (event : LinkEvent) :
    ((view.after event).state = .idle → event = .powerOn ∨ view.state = .idle) ∧
      ((view.after event).state = .apOnly → event = .provision ∨ view.state = .apOnly) := by
  obtain ⟨state, retries⟩ := view
  cases event with
  | disconnect =>
      cases state with
      | connecting =>
          simp only [LinkView.after]
          split <;> exact ⟨nofun, nofun⟩
      | idle => exact ⟨fun _ => .inr rfl, nofun⟩
      | apOnly => exact ⟨nofun, fun _ => .inr rfl⟩
      | connected | failed => exact ⟨nofun, nofun⟩
  | powerOn => exact ⟨fun _ => .inl rfl, nofun⟩
  | provision => exact ⟨nofun, fun _ => .inl rfl⟩
  | stage => exact ⟨fun same => .inr same, fun same => .inr same⟩
  | start | enter | gotIp | refused => exact ⟨nofun, nofun⟩

/-- Past the boot decision and not in IDLE. -/
structure Decided (system : System) : Prop where
  past : system.main ≠ .init ∧ system.main ≠ .boot
  notIdle : system.device.state ≠ .idle

/-- Where app_main is past the boot decision, it stays there until a restart. -/
theorem past_step {system next : System} {action : Action}
    (taken : step system action = some next) (past : system.main ≠ .init ∧ system.main ≠ .boot) :
    (next.main ≠ .init ∧ next.main ≠ .boot) ∨ linkEvent system action = some .powerOn := by
  have same (main : next.main = system.main) : next.main ≠ .init ∧ next.main ≠ .boot := by
    rw [main]
    exact past
  cases action with
  | httpd ret =>
      cases pc : system.httpd with
      | connectConfigure config =>
          simp only [step, httpdStep, pc] at taken
          split at taken <;> cases taken
          · exact .inl past
          · rename_i failed
            exact .inr (by simp only [linkEvent, pc, if_neg failed])
      | _ =>
          refine .inl (same ?_)
          simp only [step, httpdStep, pc] at taken
          (try split at taken) <;> cases taken <;> rfl
  | main ret outcome =>
      simp only [step, mainStep] at taken
      cases pc : system.main with
      | init => exact absurd pc past.1
      | boot => exact absurd pc past.2
      | restarting => exact .inr (by simp only [linkEvent, pc])
      | bootWait since =>
          simp only [pc] at taken
          repeat' (split at taken)
          all_goals
            cases taken
            try exact .inl ⟨by simp, by simp⟩
      | _ =>
          simp only [pc] at taken
          (try split at taken) <;> cases taken <;> exact .inl ⟨by simp, by simp⟩
  | delayed index => exact .inl (same (delayedStep_device taken).1)
  | disconnected reason outcome =>
      obtain ⟨-, rfl⟩ := disconnected_cases taken
      exact .inl past
  | gotIp outcome =>
      obtain ⟨-, rfl⟩ := gotIp_cases taken
      exact .inl past
  | init flash => exact absurd (init_cases taken).1 past.1
  | boot opens driver => exact absurd (boot_cases taken).1 past.2
  | restart => exact .inr rfl
  | _ =>
      refine .inl (same ?_)
      simp only [step] at taken
      repeat' (split at taken)
      all_goals
        cases taken
        try rfl

theorem notProvision {system next : System} {action : Action}
    (taken : step system action = some next) (past : system.main ≠ .init ∧ system.main ≠ .boot) :
    linkEvent system action ≠ some .provision := by
  intro is
  cases action with
  | boot opens driver => exact past.2 (boot_cases taken).1
  | httpd ret =>
      simp only [linkEvent] at is
      repeat' (split at is)
      all_goals cases is
  | main ret outcome =>
      simp only [linkEvent] at is
      repeat' (split at is)
      all_goals cases is
  | init flash =>
      simp only [linkEvent] at is
      split at is <;> cases is
  | _ => cases is

/-- A restart leaves nothing but the store. -/
theorem powerOn_restarts {system next : System} {action : Action}
    (taken : step system action = some next) (is : linkEvent system action = some .powerOn) :
    ∃ nvs, next = System.powerOn nvs := by
  cases action with
  | httpd ret =>
      simp only [linkEvent] at is
      cases pc : system.httpd with
      | connectConfigure config =>
          simp only [step, httpdStep, pc] at taken
          simp only [pc] at is
          split at is
          · cases is
          · rename_i failed
            rw [if_neg failed] at taken
            cases taken
            exact ⟨_, rfl⟩
      | connectLaunch =>
          simp only [pc] at is
          split at is <;> cases is
      | _ =>
          simp only [pc] at is
          cases is
  | main ret outcome =>
      simp only [linkEvent] at is
      cases pc : system.main with
      | restarting =>
          simp only [step, mainStep, pc, Option.some.injEq] at taken
          exact ⟨_, taken.symm⟩
      | reconnectLaunch now =>
          simp only [pc] at is
          split at is <;> cases is
      | _ =>
          simp only [pc] at is
          cases is
  | init flash =>
      obtain ⟨-, rfl⟩ := init_cases taken
      rcases initStep_cases system flash with ⟨ok, -⟩ | ⟨-, aborted⟩
      · rw [linkEvent, if_pos ok] at is
        cases is
      · exact ⟨_, aborted⟩
  | boot opens driver =>
      simp only [linkEvent] at is
      split at is <;> cases is
  | restart =>
      cases taken
      exact ⟨_, rfl⟩
  | _ => cases is

def Action.isRequest : Action → Bool
  | .getRoot | .postApShutdown | .postSave .. | .getScan => true
  | _ => false

/-- Only its own task and a new request move the httpd task, apart from a restart. -/
theorem step_httpd {system after : System} {action : Action}
    (taken : step system action = some after) (notHttpd : ∀ ret, action ≠ .httpd ret)
    (noRequest : action.isRequest = false) (on : linkEvent system action ≠ some .powerOn) :
    after.httpd = system.httpd := by
  cases action with
  | httpd ret => exact absurd rfl (notHttpd ret)
  | getRoot | postApShutdown | postSave | getScan => cases noRequest
  | main ret outcome =>
      rcases mainStep_cases taken with writes | quiet
      · cases writes with
        | restarted pc => exact absurd (by simp only [linkEvent, pc]) on
        | _ => rfl
      · exact quiet.httpd
  | disconnected reason outcome =>
      obtain ⟨-, rfl⟩ := disconnected_cases taken
      rfl
  | gotIp outcome =>
      obtain ⟨-, rfl⟩ := gotIp_cases taken
      rfl
  | delayed index => exact (delayedStep_device taken).2.1
  | init flash =>
      obtain ⟨-, rfl⟩ := init_cases taken
      rcases initStep_cases system flash with ⟨-, ready⟩ | ⟨failed, -⟩
      · rw [ready]
      · exact absurd (by rw [linkEvent, if_neg failed]) on
  | boot opens driver =>
      rcases (boot_cases taken).2 with ⟨-, rfl⟩ | ⟨creds, -, rfl⟩ <;> rfl
  | restart => exact absurd rfl on
  | tick | staStart | staConnected | scanDone | scanPublish =>
      simp only [step] at taken
      repeat' (split at taken)
      all_goals
        cases taken
        try rfl

theorem decided_step {system next : System} {action : Action}
    (taken : step system action = some next) (decided : Decided system) :
    (Decided next ∧ (next.device.state = .apOnly → system.device.state = .apOnly)) ∨
      linkEvent system action = some .powerOn := by
  rcases past_step taken decided.past with past | restarted
  · have view := step_view taken
    cases is : linkEvent system action with
    | none =>
        rw [is] at view
        have same : next.device.state = system.device.state := congrArg LinkView.state view
        refine .inl ⟨⟨past, ?_⟩, fun apOnly => same.symm.trans apOnly⟩
        rw [same]
        exact decided.notIdle
    | some event =>
        rw [is] at view
        have reached : (system.device.linkView.after event).state = next.device.state :=
          congrArg LinkView.state view.symm
        obtain ⟨idle, apOnly⟩ := after_early system.device.linkView event
        rw [reached] at idle apOnly
        by_cases restarts : event = .powerOn
        · exact .inr (congrArg some restarts)
        · refine .inl ⟨⟨past, fun isIdle => ?_⟩, fun isApOnly => ?_⟩
          · exact decided.notIdle ((idle isIdle).resolve_left restarts)
          · refine (apOnly isApOnly).resolve_left (fun provision => ?_)
            exact notProvision taken decided.past (is.trans (congrArg some provision))
  · exact .inr restarted

/-- The boot decision leaves IDLE. -/
theorem decided_boot {system next : System} {action : Action}
    (taken : step system action = some next) (before : system.main = .init ∨ system.main = .boot)
    (later : next.main ≠ .init ∧ next.main ≠ .boot) : next.device.state ≠ .idle := by
  have early (same : next.main = system.main) : next.device.state ≠ .idle := by
    rw [same] at later
    rcases before with pc | pc
    · exact absurd pc later.1
    · exact absurd pc later.2
  cases action with
  | boot opens driver =>
      rcases (boot_cases taken).2 with ⟨-, rfl⟩ | ⟨creds, -, rfl⟩
      · exact nofun
      · exact nofun
  | init flash =>
      obtain ⟨-, rfl⟩ := init_cases taken
      rcases initStep_cases system flash with ⟨-, ready⟩ | ⟨-, aborted⟩
      · rw [ready] at later
        exact absurd rfl later.2
      · rw [aborted] at later
        exact absurd rfl later.1
  | main ret outcome =>
      rcases before with pc | pc <;> simp [step, mainStep, pc] at taken
  | httpd ret =>
      rcases httpdStep_main taken with same | rfl
      · exact early same
      · exact absurd rfl later.1
  | delayed index => exact early (delayedStep_device taken).1
  | disconnected reason outcome =>
      obtain ⟨-, rfl⟩ := disconnected_cases taken
      exact early rfl
  | gotIp outcome =>
      obtain ⟨-, rfl⟩ := gotIp_cases taken
      exact early rfl
  | restart =>
      cases taken
      exact absurd rfl later.1
  | _ =>
      refine early ?_
      simp only [step] at taken
      repeat' (split at taken)
      all_goals
        cases taken
        try rfl

theorem decided_of_history {nvs : Nvs} {trace : List (System × Action)} {system : System}
    (run : History nvs trace system) (past : system.main ≠ .init ∧ system.main ≠ .boot) :
    Decided system := by
  refine run.invariant_state (fun system => system.main ≠ .init ∧ system.main ≠ .boot →
    Decided system) (fun early => absurd rfl early.1) ?_ past
  intro state action next decided taken later
  by_cases before : state.main ≠ .init ∧ state.main ≠ .boot
  · rcases decided_step taken (decided before) with ⟨stays, -⟩ | restarted
    · exact stays
    · obtain ⟨_, rfl⟩ := powerOn_restarts taken restarted
      exact absurd rfl later.1
  · rw [not_and_or, not_not, not_not] at before
    exact ⟨later, decided_boot taken before later⟩

/-- From the boot decision on and up to the next restart, AP_ONLY is not entered again once it
has been left, and IDLE never. -/
theorem apOnly_left_once (nvs : Nvs) (trace : List (System × Action)) (final : System)
    (run : History nvs trace final) (front middle back : List (System × Action))
    (first second : System × Action) (split : trace = front ++ first :: (middle ++ second :: back))
    (past : first.1.main ≠ .init ∧ first.1.main ≠ .boot)
    (unbroken : ∀ taken ∈ first :: middle, linkEvent taken.1 taken.2 ≠ some .powerOn)
    (left : first.1.device.state ≠ .apOnly) :
    second.1.device.state ≠ .apOnly ∧ second.1.device.state ≠ .idle := by
  obtain ⟨next, reached, taken, later⟩ := run.before split
  obtain ⟨_, between, -, -⟩ := later.before rfl
  have stretch : Run step first.1 (first :: middle) second.1 := Run.cons taken between
  have kept := stretch.invariant (fun _ system => Decided system ∧ system.device.state ≠ .apOnly)
    (fun system action => linkEvent system action ≠ some .powerOn)
    ⟨decided_of_history reached past, left⟩
    (fun _ _ _ _ _ kept unbroken taken => by
      rcases decided_step taken kept.1 with ⟨stays, back⟩ | restarted
      · exact ⟨stays, fun apOnly => kept.2 (back apOnly)⟩
      · exact absurd restarted unbroken)
    unbroken
  exact ⟨kept.2, kept.1.notIdle⟩

theorem two_attempts_no_apOnly :
    (atAttempt 20).device.state ≠ .apOnly ∧ (atAttempt 20).device.state ≠ .idle := by
  obtain ⟨final, run, -⟩ := exists_history Nvs.erased twoAttempts (fun _ => true)
    (by decide +kernel)
  exact apOnly_left_once Nvs.erased _ final run _ _ _ _ _ twoAttempts_split (by decide +kernel)
    (by decide +kernel) (by decide +kernel)

end HydroGovernor
