import HydroGovernor.Tasks

/-! The shutdown of the setup AP: two flags, the httpd task that schedules and the delayed
tasks that it creates. -/

namespace HydroGovernor

open Firmware

/-- The request found no shutdown scheduled and is about to schedule one. -/
def HttpdPc.scheduling : HttpdPc → Bool
  | .shutdownMark => true
  | .shutdownSpawn => true
  | .shutdownUnmark => true
  | _ => false

/-- The request has set s_ap_shutdown_scheduled and has not yet dealt with the result of
xTaskCreate. -/
def HttpdPc.marked : HttpdPc → Bool
  | .shutdownSpawn => true
  | .shutdownUnmark => true
  | _ => false

def DelayedPc.inside : DelayedPc → Bool
  | .testActive => true
  | .clearActive => true
  | .callback => true
  | .unmark => false

def Action.boots : Action → Bool
  | .boot _ _ => true
  | _ => false

/-- At most one delayed task exists, under a set flag, and of the calls of the callback, the
active AP and a task about to call there is at most one. -/
structure ShutdownInv (system : System) : Prop where
  single : system.delayed = [] ∨ ∃ pc, system.delayed = [pc]
  flagged : system.delayed ≠ [] → system.apShutdownScheduled = true
  free : system.httpd.scheduling = true → system.delayed = []
  marked : system.httpd.marked = true → system.apShutdownScheduled = true
  held : system.apShutdownScheduled = true → system.delayed ≠ [] ∨ system.httpd.marked = true
  clearing : system.delayed = [.clearActive] → system.device.apActive = true
  budget : system.shutdownCalls + system.device.apActive.toNat +
    (if system.delayed = [.callback] then 1 else 0) ≤ 1
  booting : system.started = false → system.delayed = [] ∧ system.httpd = .idle ∧
    system.apShutdownScheduled = false ∧ system.shutdownCalls = 0

theorem shutdownInv_powerOn (nvs : Nvs) : ShutdownInv (System.powerOn nvs) where
  single := Or.inl rfl
  flagged some := absurd rfl some
  free _ := rfl
  marked is := by cases is
  held is := by cases is
  clearing is := by cases is
  budget := Nat.zero_le 1
  booting _ := ⟨rfl, rfl, rfl, rfl⟩

theorem HttpdPc.scheduling_of_marked {pc : HttpdPc} (marked : pc.marked = true) :
    pc.scheduling = true := by
  cases pc with
  | shutdownSpawn | shutdownUnmark => rfl
  | _ => cases marked

theorem shutdownInv_noTask {system : System} (none : system.delayed = [])
    (marked : system.httpd.marked = true → system.apShutdownScheduled = true)
    (held : system.apShutdownScheduled = true → system.httpd.marked = true)
    (budget : system.shutdownCalls + system.device.apActive.toNat ≤ 1)
    (started : system.started = true) : ShutdownInv system where
  single := Or.inl none
  flagged some := absurd none some
  free _ := none
  marked := marked
  held is := Or.inr (held is)
  clearing is := by
    rw [none] at is
    cases is
  budget := by
    rw [none, if_neg (by decide)]
    exact budget
  booting off := by
    rw [started] at off
    cases off

theorem shutdownInv_oneTask {system : System} {pc : DelayedPc} (single : system.delayed = [pc])
    (set : system.apShutdownScheduled = true) (quiet : system.httpd.scheduling = false)
    (clearing : pc = .clearActive → system.device.apActive = true)
    (budget : system.shutdownCalls + system.device.apActive.toNat +
      (if pc = .callback then 1 else 0) ≤ 1)
    (started : system.started = true) : ShutdownInv system where
  single := Or.inr ⟨pc, single⟩
  flagged _ := set
  free is := by
    rw [quiet] at is
    cases is
  marked _ := set
  held _ := by
    rw [single]
    exact Or.inl (List.cons_ne_nil _ _)
  clearing is := by
    rw [single] at is
    exact clearing (List.cons_eq_cons.mp is).1
  budget := by
    simp only [single, List.cons.injEq, and_true]
    exact budget
  booting off := by
    rw [started] at off
    cases off

/-- A step that touches neither flag, no delayed task and no scheduling request. -/
structure SameShutdown (system next : System) : Prop where
  apActive : next.device.apActive = system.device.apActive
  scheduled : next.apShutdownScheduled = system.apShutdownScheduled
  delayed : next.delayed = system.delayed
  calls : next.shutdownCalls = system.shutdownCalls
  scheduling : next.httpd.scheduling = system.httpd.scheduling
  marked : next.httpd.marked = system.httpd.marked
  idle : system.httpd = .idle → next.started = false → next.httpd = .idle
  started : next.started = false → system.started = false

theorem ShutdownInv.congr {system next : System} (inv : ShutdownInv system)
    (same : SameShutdown system next) : ShutdownInv next where
  single := by
    rw [same.delayed]
    exact inv.single
  flagged := by
    rw [same.delayed, same.scheduled]
    exact inv.flagged
  free := by
    rw [same.delayed, same.scheduling]
    exact inv.free
  marked := by
    rw [same.scheduled, same.marked]
    exact inv.marked
  held := by
    rw [same.scheduled, same.delayed, same.marked]
    exact inv.held
  clearing := by
    rw [same.delayed, same.apActive]
    exact inv.clearing
  budget := by
    rw [same.calls, same.apActive, same.delayed]
    exact inv.budget
  booting off := by
    obtain ⟨none, idle, clear, uncalled⟩ := inv.booting (same.started off)
    exact ⟨same.delayed.trans none, same.idle idle off, same.scheduled.trans clear,
      same.calls.trans uncalled⟩

theorem ShutdownInv.started_of_busy {system : System} (inv : ShutdownInv system)
    (busy : system.httpd ≠ .idle) : system.started = true := by
  by_contra off
  exact busy (inv.booting (by simpa using off)).2.1

theorem ShutdownInv.spare {system : System} (inv : ShutdownInv system) :
    system.shutdownCalls + system.device.apActive.toNat ≤ 1 :=
  le_trans (Nat.le_add_right _ _) inv.budget

/-- The pieces of GET / and POST /ap_shutdown. -/
theorem shutdownInv_httpd {system next : System} {ret : EspErr} (inv : ShutdownInv system)
    (taken : httpdStep system ret = some next) : ShutdownInv next := by
  have started : system.started = true := inv.started_of_busy (fun idle => by
    simp [httpdStep, idle] at taken)
  unfold httpdStep at taken
  cases pc : system.httpd with
  | idle => simp [pc] at taken
  | shutdownTestScheduled =>
      simp only [pc] at taken
      split at taken
      · cases taken
        exact inv.congr ⟨rfl, rfl, rfl, rfl, by rw [pc]; rfl, by rw [pc]; rfl,
          fun _ _ => rfl, id⟩
      · rename_i clear
        cases taken
        have none : system.delayed = [] := by
          by_contra some
          exact clear (inv.flagged some)
        refine shutdownInv_noTask none ?_ ?_ inv.spare started
        · exact fun is => by cases is
        · exact fun set => absurd set clear
  | shutdownMark =>
      simp only [pc] at taken
      cases taken
      have none : system.delayed = [] := inv.free (by rw [pc]; rfl)
      exact shutdownInv_noTask none (fun _ => rfl) (fun _ => rfl) (inv.spare) started
  | shutdownSpawn =>
      simp only [pc] at taken
      have none : system.delayed = [] := inv.free (by rw [pc]; rfl)
      have set : system.apShutdownScheduled = true := inv.marked (by rw [pc]; rfl)
      split at taken
      · cases taken
        rw [none, List.nil_append]
        refine shutdownInv_oneTask rfl set rfl ?_ inv.spare started
        exact fun is => by cases is
      · cases taken
        exact inv.congr ⟨rfl, rfl, rfl, rfl, by rw [pc]; rfl, by rw [pc]; rfl,
          fun idle => by simp [pc] at idle, id⟩
  | shutdownUnmark =>
      simp only [pc] at taken
      cases taken
      have none : system.delayed = [] := inv.free (by rw [pc]; rfl)
      refine shutdownInv_noTask none ?_ ?_ inv.spare started
      · exact fun is => by cases is
      · exact fun is => by cases is
  | connectAlign config pointer =>
      simp only [pc] at taken
      cases taken
      obtain ⟨channel, aligned⟩ := system.device.alignChannel_frame pointer
      exact inv.congr ⟨by rw [aligned], rfl, rfl, rfl, by rw [pc]; rfl, by rw [pc]; rfl,
        fun idle => by simp [pc] at idle, id⟩
  | connectConfigure config =>
      simp only [pc] at taken
      split at taken
      · cases taken
        exact inv.congr ⟨rfl, rfl, rfl, rfl, by rw [pc]; rfl, by rw [pc]; rfl,
          fun idle => by simp [pc] at idle, id⟩
      · cases taken
        exact shutdownInv_powerOn _
  | _ =>
      simp only [pc] at taken
      (try split at taken) <;> cases taken <;>
        exact inv.congr ⟨rfl, rfl, rfl, rfl, by rw [pc]; rfl, by rw [pc]; rfl,
          fun idle => by simp [pc] at idle, id⟩

theorem delayed_cases {system next : System} {index : Nat} (inv : ShutdownInv system)
    (taken : step system (.delayed index) = some next) :
    ∃ pc, system.delayed = [pc] ∧ next =
      match delayedStep system pc with
      | (after, some later) => { after with delayed := [later] }
      | (after, none) => { after with delayed := [] } := by
  rcases inv.single with none | ⟨pc, single⟩
  · simp [step, none] at taken
  · refine ⟨pc, single, ?_⟩
    cases index with
    | zero =>
        cases pc <;>
          (simp only [step, single, List.getElem?_cons_zero, delayedStep] at taken
           cases taken
           simp [delayedStep, single])
    | succ later => simp [step, single] at taken

theorem shutdownInv_delayed {system next : System} {index : Nat} (inv : ShutdownInv system)
    (taken : step system (.delayed index) = some next) : ShutdownInv next := by
  obtain ⟨pc, single, after⟩ := delayed_cases inv taken
  have exist : system.delayed ≠ [] := by
    rw [single]
    exact List.cons_ne_nil _ _
  have set : system.apShutdownScheduled = true := inv.flagged exist
  have quiet : system.httpd.scheduling = false := by
    by_contra scheduling
    exact exist (inv.free (by simpa using scheduling))
  have on : system.started = true := by
    by_contra off
    exact exist (inv.booting (by simpa using off)).1
  have spare := inv.budget
  simp only [single, List.cons.injEq, and_true] at spare
  subst after
  cases pc with
  | testActive =>
      refine shutdownInv_oneTask rfl set quiet ?_ ?_ on
      · intro found
        by_contra inactive
        cases (if_neg inactive).symm.trans found
      · cases system.device.apActive with
        | true => exact spare
        | false => exact spare
  | clearActive =>
      have active := inv.clearing single
      rw [active] at spare
      refine shutdownInv_oneTask rfl set quiet ?_ spare on
      exact fun is => by cases is
  | callback =>
      rw [if_pos rfl] at spare
      refine shutdownInv_oneTask rfl set quiet ?_ ?_ on
      · exact fun is => by cases is
      · simp only [delayedStep, reduceCtorEq, if_false]
        omega
  | unmark =>
      refine shutdownInv_noTask rfl ?_ ?_ inv.spare on
      · intro marked
        cases (HttpdPc.scheduling_of_marked marked).symm.trans quiet
      · exact fun is => by cases is

/-- app_main reads s_ap_active and leaves the rest alone. -/
theorem shutdownInv_main {system next : System} {ret : EspErr} {outcome : NvsOutcome}
    (inv : ShutdownInv system) (taken : mainStep system ret outcome = some next) :
    ShutdownInv next := by
  unfold mainStep at taken
  cases pc : system.main with
  | init | boot => simp [pc] at taken
  | restarting =>
      simp only [pc] at taken
      cases taken
      exact shutdownInv_powerOn _
  | bootWait since =>
      have off : system.started = false := by rw [System.started, pc, MainPc.started]
      simp only [pc] at taken
      repeat' (split at taken)
      all_goals
        cases taken
        try exact inv.congr ⟨rfl, rfl, rfl, rfl, rfl, rfl, fun idle _ => idle, fun _ => off⟩
  | bootEnded connected =>
      have off : system.started = false := by rw [System.started, pc, MainPc.started]
      simp only [pc] at taken
      split at taken <;> cases taken <;>
        exact inv.congr ⟨rfl, rfl, rfl, rfl, rfl, rfl, fun idle _ => idle, fun _ => off⟩
  | _ =>
      simp only [pc] at taken
      (try split at taken) <;> cases taken <;>
        exact inv.congr ⟨rfl, rfl, rfl, rfl, rfl, rfl, fun idle _ => idle, fun is => by cases is⟩

theorem shutdownInv_step {system next : System} {action : Action} (inv : ShutdownInv system)
    (taken : step system action = some next) : ShutdownInv next := by
  have quiet (core : next.device.apActive = system.device.apActive)
      (same : next = { system with device := next.device, event := next.event }) :
      ShutdownInv next := by
    rw [same]
    exact inv.congr ⟨core, rfl, rfl, rfl, rfl, rfl, fun idle _ => idle, id⟩
  cases action with
  | httpd ret => exact shutdownInv_httpd inv taken
  | main ret outcome => exact shutdownInv_main inv taken
  | delayed index => exact shutdownInv_delayed inv taken
  | restart =>
      cases taken
      exact shutdownInv_powerOn _
  | init flash =>
      obtain ⟨pc, rfl⟩ := init_cases taken
      have off : system.started = false := by rw [System.started, pc, MainPc.started]
      rcases initStep_cases system flash with ⟨_, ready⟩ | ⟨_, aborted⟩
      · rw [ready]
        exact inv.congr ⟨rfl, rfl, rfl, rfl, rfl, rfl, fun idle _ => idle, fun _ => off⟩
      · rw [aborted]
        exact shutdownInv_powerOn _
  | boot opens driver =>
      obtain ⟨pc, booted⟩ := boot_cases taken
      have off : system.started = false := by rw [System.started, pc, MainPc.started]
      obtain ⟨none, idle, clear, uncalled⟩ := inv.booting off
      rcases booted with ⟨-, rfl⟩ | ⟨creds, -, rfl⟩
      · refine shutdownInv_noTask none inv.marked ?_ ?_ rfl
        · intro set
          cases clear.symm.trans set
        · simp [uncalled, Device.startAp]
      · exact inv.congr ⟨rfl, rfl, rfl, rfl, rfl, rfl, fun idle _ => idle, fun _ => off⟩
  | disconnected reason outcome =>
      obtain ⟨-, rfl⟩ := disconnected_cases taken
      exact quiet (Device.onDisconnected_apActive _ reason outcome) rfl
  | gotIp outcome =>
      obtain ⟨-, rfl⟩ := gotIp_cases taken
      exact quiet (Device.onGotIp_apActive _ outcome) rfl
  | getRoot | postApShutdown | postSave | getScan =>
      simp only [step] at taken
      split at taken
      · rename_i accepts
        obtain ⟨started, idle⟩ := accepts_iff.mp accepts
        (try split at taken) <;> cases taken <;>
          exact inv.congr ⟨rfl, rfl, rfl, rfl, by simp [idle, HttpdPc.scheduling],
            by simp [idle, HttpdPc.marked],
            fun _ off => absurd (started.symm.trans off) (by simp), id⟩
      · cases taken
  | tick | staStart | staConnected | scanDone | scanPublish =>
      simp only [step] at taken
      repeat' (split at taken)
      all_goals
        cases taken
        try exact quiet rfl rfl

/-- Only start_ap sets s_ap_active. -/
theorem inactive_step {system next : System} {action : Action}
    (taken : step system action = some next) (later : action.boots = false)
    (inactive : system.device.apActive = false) : next.device.apActive = false := by
  cases action with
  | boot opens driver => cases later
  | httpd ret =>
      rcases httpdStep_cases taken with writes | quiet
      · cases writes with
        | entered => exact inactive
        | aborted => rfl
        | launchFailed => exact inactive
      · exact quiet.core.apActive.trans inactive
  | main ret outcome =>
      rcases mainStep_cases taken with writes | quiet
      · cases writes with
        | restarted => rfl
        | bootEnded | bootConnected | bootFailed | entered | launchFailed => exact inactive
      · exact quiet.core.apActive.trans inactive
  | delayed index =>
      simp only [step] at taken
      split at taken
      · cases taken
      · rename_i pc _
        cases pc <;>
          (simp only [delayedStep] at taken
           cases taken
           first | exact inactive | rfl)
  | disconnected reason outcome =>
      obtain ⟨-, rfl⟩ := disconnected_cases taken
      exact (Device.onDisconnected_apActive _ reason outcome).trans inactive
  | gotIp outcome =>
      obtain ⟨-, rfl⟩ := gotIp_cases taken
      exact (Device.onGotIp_apActive _ outcome).trans inactive
  | init flash =>
      obtain ⟨-, rfl⟩ := init_cases taken
      rcases initStep_cases system flash with ⟨_, ready⟩ | ⟨_, aborted⟩
      · rw [ready]
        exact inactive
      · rw [aborted]
        rfl
  | restart =>
      cases taken
      rfl
  | _ =>
      simp only [step] at taken
      repeat' (split at taken)
      all_goals
        cases taken
        try exact inactive

/-- The AP is shut down once: the callback runs at most once, no two delayed tasks are in
wifi_manager_ap_shutdown together, s_ap_active stays false until the next boot,
s_ap_shutdown_scheduled is false whenever nothing is scheduled, and the piece of httpd that
follows a failed xTaskCreate makes it so. -/
structure ShutDownOnce (trace : List (System × Action)) (final : System) : Prop where
  called : final.shutdownCalls ≤ 1
  alone : (final.delayed.filter DelayedPc.inside).length ≤ 1
  stays : ∀ front system action back, trace = front ++ (system, action) :: back →
    (∀ taken ∈ (system, action) :: back, taken.2.boots = false) →
    system.device.apActive = false → final.device.apActive = false
  released : final.delayed = [] → final.httpd.marked = false → final.apShutdownScheduled = false
  reset : ∀ ret created next, ret ≠ .ok → final.httpd = .shutdownSpawn →
    httpdStep final ret = some created → httpdStep created .ok = some next →
    next.delayed = [] ∧ next.apShutdownScheduled = false ∧ next.httpd = .idle

theorem ShutdownInv.alone {system : System} (inv : ShutdownInv system) :
    (system.delayed.filter DelayedPc.inside).length ≤ 1 := by
  apply Nat.le_trans (List.length_filter_le _ _)
  rcases inv.single with none | ⟨pc, single⟩
  · rw [none]
    exact Nat.zero_le 1
  · rw [single]
    exact le_refl 1

theorem ap_shut_down_once (nvs : Nvs) (trace : List (System × Action)) (final : System)
    (run : History nvs trace final) : ShutDownOnce trace final := by
  have inv : ShutdownInv final := run.invariant_state ShutdownInv (shutdownInv_powerOn nvs)
    (fun _ _ _ inv taken => shutdownInv_step inv taken)
  refine ⟨?_, inv.alone, ?_, ?_, ?_⟩
  · have budget := inv.budget
    omega
  · intro front system action back split quiet inactive
    obtain ⟨next, -, taken, rest⟩ := run.before split
    have first := inactive_step taken (quiet _ List.mem_cons_self) inactive
    exact rest.invariant (fun _ state => state.device.apActive = false)
      (fun _ action => action.boots = false) first
      (fun _ _ _ _ _ inactive quiet taken => inactive_step taken quiet inactive)
      (fun taken member => quiet taken (List.mem_cons_of_mem _ member))
  · intro none unmarked
    by_contra set
    rcases inv.held (by simpa using set) with some | marked
    · exact some none
    · rw [unmarked] at marked
      cases marked
  · intro ret created next failed spawning first second
    simp only [httpdStep, spawning, failed, if_false] at first
    cases first
    simp only [httpdStep] at second
    cases second
    exact ⟨inv.free (by rw [spawning]; rfl), rfl, rfl⟩

/-- A second request tests s_ap_active before and s_ap_shutdown_scheduled after the first
delayed task has run. -/
def requestAcrossShutdown : List Action :=
  .init .ready :: .boot .ok noScan :: .postApShutdown :: (List.replicate 4 (Action.httpd .ok) ++
    .postApShutdown :: .httpd .ok :: (List.replicate 4 (Action.delayed 0) ++
      (List.replicate 3 (Action.httpd .ok) ++ List.replicate 2 (Action.delayed 0))))

theorem request_across_shutdown_once :
    ∃ trace final, ShutDownOnce trace final ∧ final.shutdownCalls = 1 ∧ final.delayed = [] := by
  obtain ⟨final, run, reached⟩ := exists_history Nvs.erased requestAcrossShutdown
    (fun system => decide (system.shutdownCalls = 1) && decide (system.delayed = [])) (by decide)
  simp only [Bool.and_eq_true, decide_eq_true_eq] at reached
  exact ⟨_, final, ap_shut_down_once _ _ _ run, reached⟩

end HydroGovernor
