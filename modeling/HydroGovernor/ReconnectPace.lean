import HydroGovernor.ApShutdown
import HydroGovernor.LinkMachine
import HydroGovernor.Reconnection

/-! How often the main loop calls wifi_manager_reconnect. -/

namespace HydroGovernor

open Firmware
open Firmware.Transition (Run)

/-- The main loop has found the AP inactive in this iteration. -/
def MainPc.foundInactive : MainPc → Bool
  | .testFailed _ => true
  | .reconnectRead _ => true
  | .reconnectTarget _ _ => true
  | .reconnectEnter _ _ => true
  | .reconnectConfigure _ _ => true
  | .reconnectLaunch _ => true
  | _ => false

def MainPc.callTime : MainPc → Option Nat
  | .reconnectTarget now _ => some now
  | .reconnectEnter now _ => some now
  | .reconnectConfigure now _ => some now
  | .reconnectLaunch now => some now
  | _ => none

/-- Every call finds the AP inactive and its interval passed, and two calls without a restart in
between are begun at least the interval apart. -/
structure ReconnectPaced (trace : List (System × Action)) : Prop where
  each : ∀ taken ∈ trace, callsReconnect taken.1 taken.2 = true →
    ∃ now, taken.1.main.now = some now ∧ reconnectIntervalUs ≤ now ∧
      now ≤ taken.1.device.clock ∧ taken.1.device.apActive = false
  gap : ∀ front middle back first second, trace = front ++ first :: (middle ++ second :: back) →
    callsReconnect first.1 first.2 = true → callsReconnect second.1 second.2 = true →
    (∀ taken ∈ middle, linkEvent taken.1 taken.2 ≠ some .powerOn) →
    ∀ begun later, first.1.main.now = some begun → second.1.main.now = some later →
      begun + reconnectIntervalUs ≤ later

theorem callsReconnect_cases {system : System} {action : Action}
    (calls : callsReconnect system action = true) :
    ∃ now ret outcome, system.main = .reconnectRead now ∧ action = .main ret outcome := by
  rw [callsReconnect, Bool.and_eq_true] at calls
  obtain ⟨isMain, reads⟩ := calls
  cases action with
  | main ret outcome =>
      cases pc : system.main with
      | reconnectRead now => exact ⟨now, ret, outcome, rfl, rfl⟩
      | _ => rw [pc] at reads; cases reads
  | _ => cases isMain

/-! What the other tasks leave alone -/

structure OtherKeeps (system next : System) : Prop where
  main : next.main = system.main
  last : next.lastReconnectUs = system.lastReconnectUs
  clock : system.device.clock ≤ next.device.clock

theorem httpdStep_keeps {system next : System} {ret : EspErr}
    (taken : httpdStep system ret = some next) :
    linkEvent system (.httpd ret) = some .powerOn ∨ OtherKeeps system next := by
  unfold httpdStep at taken
  cases pc : system.httpd with
  | connectConfigure config =>
      simp only [pc] at taken
      split at taken <;> cases taken
      · exact .inr ⟨rfl, rfl, Nat.le_refl _⟩
      · rename_i failed
        exact .inl (by simp only [linkEvent, pc, if_neg failed])
  | connectAlign config pointer =>
      simp only [pc, Option.some.injEq] at taken
      subst taken
      obtain ⟨channel, aligned⟩ := system.device.alignChannel_frame pointer
      refine .inr ⟨rfl, rfl, ?_⟩
      rw [aligned]
  | _ =>
      simp only [pc] at taken
      (try split at taken) <;> cases taken <;> exact .inr ⟨rfl, rfl, Nat.le_refl _⟩

theorem other_keeps {system next : System} {action : Action}
    (taken : step system action = some next) (other : action.isMain = false) :
    linkEvent system action = some .powerOn ∨
      ((system.main = .init ∨ system.main = .boot) ∧ next.main.now = none) ∨
      OtherKeeps system next := by
  cases action with
  | main ret outcome => cases other
  | httpd ret => exact (httpdStep_keeps taken).imp id .inr
  | restart => exact .inl rfl
  | init flash =>
      obtain ⟨pc, rfl⟩ := init_cases taken
      rcases initStep_cases system flash with ⟨-, ready⟩ | ⟨-, aborted⟩
      · rw [ready]
        exact .inr (.inl ⟨.inl pc, rfl⟩)
      · rw [aborted]
        exact .inr (.inl ⟨.inl pc, rfl⟩)
  | boot opens driver =>
      obtain ⟨pc, ⟨-, rfl⟩ | ⟨creds, -, rfl⟩⟩ := boot_cases taken
      · exact .inr (.inl ⟨.inr pc, rfl⟩)
      · exact .inr (.inl ⟨.inr pc, rfl⟩)
  | delayed index =>
      obtain ⟨_, _, _, _, rfl⟩ := delayedStep_writes taken
      exact .inr (.inr ⟨rfl, rfl, Nat.le_refl _⟩)
  | disconnected reason outcome =>
      obtain ⟨-, rfl⟩ := disconnected_cases taken
      obtain ⟨_, _, _, _, _, _, frame⟩ := system.device.onDisconnected_frame reason outcome
      refine .inr (.inr ⟨rfl, rfl, ?_⟩)
      rw [frame]
  | gotIp outcome =>
      obtain ⟨-, rfl⟩ := gotIp_cases taken
      obtain ⟨_, _, _, frame⟩ := system.device.onGotIp_frame outcome
      refine .inr (.inr ⟨rfl, rfl, ?_⟩)
      rw [frame]
  | _ =>
      simp only [step] at taken
      repeat' (split at taken)
      all_goals
        cases taken
        try exact .inr (.inr ⟨rfl, rfl,
          by simp [Device.clearScanning, Device.publishScan]⟩)

/-! The invariant -/

structure Paced (system : System) : Prop where
  clock : ∀ now, system.main.now = some now → now ≤ system.device.clock
  inactive : system.main.foundInactive = true → system.device.apActive = false
  due : ∀ now, system.main = .reconnectRead now ∨ system.main.callTime = some now →
    system.lastReconnectUs + reconnectIntervalUs ≤ now

theorem paced_outside {system : System} (outside : system.main.now = none) : Paced system := by
  cases pc : system.main with
  | init | boot | bootWait | bootEnded | restarting | loop =>
      refine ⟨?_, ?_, ?_⟩ <;> rw [pc]
      · exact nofun
      · exact nofun
      · rintro now (is | is) <;> cases is
  | _ => rw [pc] at outside; cases outside

theorem paced_other {system next : System} {action : Action} (paced : Paced system)
    (taken : step system action = some next) (other : action.isMain = false) : Paced next := by
  rcases other_keeps taken other with restarted | ⟨-, outside⟩ | keeps
  · apply paced_outside
    obtain ⟨_, rfl⟩ := powerOn_restarts taken restarted
    rfl
  · exact paced_outside outside
  · refine ⟨fun now is => ?_, fun found => ?_, fun now is => ?_⟩
    · rw [keeps.main] at is
      exact (paced.clock now is).trans keeps.clock
    · rw [keeps.main] at found
      refine inactive_step taken ?_ (paced.inactive found)
      cases action with
      | boot opens driver =>
          rw [(boot_cases taken).1] at found
          cases found
      | _ => rfl
    · rw [keeps.main] at is
      rw [keeps.last]
      exact paced.due now is

theorem paced_main {system next : System} {ret : EspErr} {outcome : NvsOutcome}
    (paced : Paced system) (taken : mainStep system ret outcome = some next) : Paced next := by
  have clock := paced.clock
  have inactive := paced.inactive
  have due := paced.due
  unfold mainStep at taken
  cases pc : system.main with
  | init | boot => simp [pc] at taken
  | bootWait since =>
      simp only [pc] at taken
      split at taken <;> cases taken
      exact paced_outside rfl
  | bootEnded connected =>
      simp only [pc] at taken
      split at taken <;> cases taken <;> exact paced_outside rfl
  | restarting =>
      simp only [pc, Option.some.injEq] at taken
      subst taken
      exact paced_outside rfl
  | loop =>
      simp only [pc, Option.some.injEq] at taken
      subst taken
      refine ⟨?_, nofun, ?_⟩
      · rintro now is
        cases is
        exact Nat.le_refl _
      · rintro now (is | is) <;> cases is
  | testActive now =>
      simp only [pc] at taken clock
      split at taken <;> cases taken
      · exact paced_outside rfl
      · rename_i off
        refine ⟨clock, fun _ => by simpa using off, ?_⟩
        rintro now (is | is) <;> cases is
  | testFailed now =>
      simp only [pc] at taken clock inactive
      split at taken <;> cases taken
      · rename_i ready
        refine ⟨clock, fun _ => inactive rfl, ?_⟩
        rintro now (is | is) <;> cases is
        exact ready.2
      · exact paced_outside rfl
  | reconnectRead now =>
      simp only [pc] at taken clock inactive due
      split at taken <;> cases taken
      · refine ⟨clock, fun _ => inactive rfl, ?_⟩
        rintro now (is | is) <;> cases is
        exact due _ (.inl rfl)
      · exact paced_outside rfl
  | reconnectTarget now creds | reconnectEnter now config =>
      simp only [pc, Option.some.injEq] at taken
      subst taken
      rw [pc] at clock inactive due
      refine ⟨clock, fun _ => inactive rfl, ?_⟩
      rintro now (is | is) <;> cases is
      exact due _ (.inr rfl)
  | reconnectConfigure now config =>
      simp only [pc] at taken
      rw [pc] at clock inactive due
      split at taken <;> cases taken <;>
        (refine ⟨clock, fun _ => inactive rfl, ?_⟩
         rintro now (is | is) <;> cases is
         exact due _ (.inr rfl))
  | reconnectLaunch now =>
      simp only [pc] at taken
      split at taken <;> cases taken <;> exact paced_outside rfl

theorem paced_step {system next : System} {action : Action} (paced : Paced system)
    (taken : step system action = some next) : Paced next := by
  cases isMain : action.isMain with
  | false => exact paced_other paced taken isMain
  | true =>
      cases action with
      | main ret outcome => exact paced_main paced taken
      | _ => cases isMain

/-! Two calls -/

/-- An iteration begun at this time is in its call, or the call has been noted. -/
def Noted (begun : Nat) (system : System) : Prop :=
  system.main.callTime = some begun ∨ begun ≤ system.lastReconnectUs

theorem noted_main {system next : System} {ret : EspErr} {outcome : NvsOutcome} {begun : Nat}
    (noted : Noted begun system) (paced : Paced system)
    (unbroken : linkEvent system (.main ret outcome) ≠ some .powerOn)
    (taken : mainStep system ret outcome = some next) : Noted begun next := by
  have due := paced.due
  unfold mainStep at taken
  cases pc : system.main with
  | init | boot => simp [pc] at taken
  | restarting => exact absurd (by simp only [linkEvent, pc]) unbroken
  | bootWait since =>
      rw [Noted, pc] at noted
      have last := noted.resolve_left (by simp [MainPc.callTime])
      simp only [pc] at taken
      split at taken <;> cases taken
      exact .inr last
  | bootEnded connected =>
      rw [Noted, pc] at noted
      have last := noted.resolve_left (by simp [MainPc.callTime])
      simp only [pc] at taken
      split at taken <;> cases taken <;> exact .inr last
  | loop =>
      rw [Noted, pc] at noted
      simp only [pc, Option.some.injEq] at taken
      subst taken
      exact .inr (noted.resolve_left (by simp [MainPc.callTime]))
  | testActive now | testFailed now =>
      rw [Noted, pc] at noted
      have last := noted.resolve_left (by simp [MainPc.callTime])
      simp only [pc] at taken
      split at taken <;> cases taken <;> exact .inr last
  | reconnectRead now =>
      rw [Noted, pc] at noted
      have last := noted.resolve_left (by simp [MainPc.callTime])
      have since := due now (.inl pc)
      simp only [pc] at taken
      split at taken <;> cases taken
      · exact .inr last
      · exact .inr (show begun ≤ now by omega)
  | reconnectTarget now creds | reconnectEnter now config =>
      rw [Noted, pc] at noted
      simp only [pc, Option.some.injEq] at taken
      subst taken
      exact noted
  | reconnectConfigure now config =>
      rw [Noted, pc] at noted
      simp only [pc] at taken
      split at taken <;> cases taken <;> exact noted
  | reconnectLaunch now =>
      have since := due now (.inr (by rw [pc]; rfl))
      rw [Noted, pc] at noted
      have later : begun ≤ now := by
        rcases noted with is | last
        · cases is
          exact Nat.le_refl _
        · omega
      simp only [pc] at taken
      split at taken <;> cases taken <;> exact .inr later

theorem noted_step {system next : System} {action : Action} {begun : Nat}
    (noted : Noted begun system) (paced : Paced system)
    (past : system.main ≠ .init ∧ system.main ≠ .boot)
    (unbroken : linkEvent system action ≠ some .powerOn)
    (taken : step system action = some next) : Noted begun next := by
  cases isMain : action.isMain with
  | false =>
      rcases other_keeps taken isMain with restarted | ⟨early, -⟩ | keeps
      · exact absurd restarted unbroken
      · exact absurd early (not_or.mpr past)
      · rw [Noted, keeps.main, keeps.last]
        exact noted
  | true =>
      cases action with
      | main ret outcome => exact noted_main noted paced unbroken taken
      | _ => cases isMain

theorem paced_of_history {nvs : Nvs} {trace : List (System × Action)} {system : System}
    (run : History nvs trace system) : Paced system :=
  run.invariant_state Paced (paced_outside rfl) (fun _ _ _ paced taken => paced_step paced taken)

theorem noted_call {system next : System} {ret : EspErr} {outcome : NvsOutcome} {begun : Nat}
    (pc : system.main = .reconnectRead begun)
    (taken : step system (.main ret outcome) = some next) :
    Noted begun next ∧ next.main ≠ .init ∧ next.main ≠ .boot := by
  simp only [step, mainStep, pc] at taken
  split at taken <;> cases taken
  · exact ⟨.inl rfl, by simp, by simp⟩
  · exact ⟨.inr (Nat.le_refl _), by simp, by simp⟩

/-- The main loop keeps its pace of 30 s in every interleaving. -/
theorem reconnect_paced (nvs : Nvs) (trace : List (System × Action)) (final : System)
    (run : History nvs trace final) : ReconnectPaced trace where
  each taken member calls := by
    obtain ⟨front, back, split⟩ := List.append_of_mem member
    obtain ⟨_, reached, -, -⟩ := run.before split
    have paced := paced_of_history reached
    obtain ⟨now, _, _, pc, -⟩ := callsReconnect_cases calls
    have due := paced.due now (.inl pc)
    refine ⟨now, by rw [pc]; rfl, by omega, paced.clock now (by rw [pc]; rfl),
      paced.inactive (by rw [pc]; rfl)⟩
  gap front middle back first second split firstCalls secondCalls unbroken begun later isBegun
      isLater := by
    obtain ⟨next, reached, taken, rest⟩ := run.before split
    obtain ⟨_, between, -, -⟩ := rest.before rfl
    obtain ⟨now, ret, outcome, pc, is⟩ := callsReconnect_cases firstCalls
    rw [pc] at isBegun
    cases isBegun
    rw [is] at taken
    have start := noted_call pc taken
    have kept := between.invariant
      (fun _ system =>
        Noted begun system ∧ Paced system ∧ system.main ≠ .init ∧ system.main ≠ .boot)
      (fun system action => linkEvent system action ≠ some .powerOn)
      ⟨start.1, paced_step (paced_of_history reached) taken, start.2⟩
      (fun _ _ _ _ _ kept unbroken taken =>
        ⟨noted_step kept.1 kept.2.1 kept.2.2 unbroken taken, paced_step kept.2.1 taken,
          (past_step taken kept.2.2).resolve_right unbroken⟩)
      unbroken
    obtain ⟨other, _, _, pc', -⟩ := callsReconnect_cases secondCalls
    rw [pc'] at isLater
    cases isLater
    have due := kept.2.1.due later (.inl pc')
    have noted := kept.1
    rw [Noted, pc'] at noted
    have last := noted.resolve_left nofun
    omega

def lostTwice : List Action :=
  bootStored ++ [.disconnected 8 .success, .tick 31000000] ++ mainReconnects ++
    [.gotIp .success, .disconnected 8 .success, .tick 31000000] ++ mainReconnects

theorem lost_twice_paced :
    ReconnectPaced (Transition.execTrace step (System.powerOn homeNvs) lostTwice) ∧
      ((Transition.execTrace step (System.powerOn homeNvs) lostTwice).filter
        (fun taken => callsReconnect taken.1 taken.2)).length = 2 := by
  obtain ⟨final, run, -⟩ := exists_history homeNvs lostTwice (fun _ => true) (by decide +kernel)
  exact ⟨reconnect_paced homeNvs _ final run, by decide +kernel⟩

end HydroGovernor
