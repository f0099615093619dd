import HydroGovernor.Tasks

/-! CONNECTED against the associations of the driver. WIFI_EVENT and IP_EVENT notifications
come from different driver tasks, so each event carries the association it is about, and an
address may be reported after the association that it was given to has ended. -/

namespace HydroGovernor

open Firmware

/-- Only GOT_IP writes CONNECTED. -/
theorem connected_step {system next : System} {action : Action}
    (taken : step system action = some next) (connected : next.device.state = .connected) :
    system.device.state = .connected ∨ ∃ outcome, action = .gotIp outcome := by
  cases action with
  | gotIp outcome => exact Or.inr ⟨outcome, rfl⟩
  | disconnected reason outcome =>
      obtain ⟨-, rfl⟩ := disconnected_cases taken
      exact absurd connected (Device.onDisconnected_not_connected _ reason outcome)
  | httpd ret =>
      rcases httpdStep_cases taken with writes | quiet
      · cases writes with
        | entered | aborted | launchFailed => cases connected
      · exact Or.inl (quiet.core.state.symm.trans connected)
  | main ret outcome =>
      rcases mainStep_cases taken with writes | quiet
      · cases writes with
        | bootEnded | bootConnected | bootFailed => exact Or.inl connected
        | restarted | entered | launchFailed => cases connected
      · exact Or.inl (quiet.core.state.symm.trans connected)
  | delayed index =>
      obtain ⟨-, -, state, -⟩ := delayedStep_frame taken
      exact Or.inl (state.symm.trans connected)
  | init flash =>
      obtain ⟨-, rfl⟩ := init_cases taken
      rcases initStep_cases system flash with ⟨-, ready⟩ | ⟨-, aborted⟩
      · rw [ready] at connected
        exact Or.inl connected
      · rw [aborted] at connected
        cases connected
  | boot opens driver =>
      rcases (boot_cases taken).2 with ⟨-, rfl⟩ | ⟨creds, -, rfl⟩
      · cases connected
      · cases connected
  | restart =>
      cases taken
      cases connected
  | _ =>
      simp only [step] at taken
      repeat' (split at taken)
      all_goals
        cases taken
        try exact Or.inl connected

inductive LinkAction where
  | associated
  | disconnected (association : Option Nat) (reason : Reason) (outcome : NvsOutcome)
  | gotIp (association : Nat) (outcome : NvsOutcome)
  | other (action : Action)
  deriving DecidableEq, Repr

/-- The device with the number of associations reported so far, those whose end has been
reported, and the one of the last GOT_IP. -/
structure LinkSystem where
  system : System
  associations : Nat
  ended : List Nat
  lastGotIp : Option Nat
  deriving DecidableEq, Repr

def LinkSystem.powerOn (nvs : Nvs) : LinkSystem := ⟨System.powerOn nvs, 0, [], none⟩

/-- The events that say something about an association. -/
def Action.reportsLink : Action → Bool
  | .staConnected => true
  | .disconnected _ _ => true
  | .gotIp _ => true
  | _ => false

/-- A STA_DISCONNECTED ends a reported association, or an attempt that led to none. GOT_IP
may come for any reported association, ended or not. -/
def linkStep (link : LinkSystem) : LinkAction → Option LinkSystem
  | .associated =>
      (step link.system .staConnected).map (fun next =>
        { link with system := next, associations := link.associations + 1 })
  | .disconnected none reason outcome =>
      (step link.system (.disconnected reason outcome)).map (fun next =>
        { link with system := next })
  | .disconnected (some association) reason outcome =>
      if association < link.associations ∧ association ∉ link.ended then
        (step link.system (.disconnected reason outcome)).map (fun next =>
          { link with system := next, ended := link.ended ++ [association] })
      else none
  | .gotIp association outcome =>
      if association < link.associations then
        (step link.system (.gotIp outcome)).map (fun next =>
          { link with system := next, lastGotIp := some association })
      else none
  | .other action =>
      if action.reportsLink then none
      else (step link.system action).map (fun next => { link with system := next })

abbrev LinkHistory (nvs : Nvs) (trace : List (LinkSystem × LinkAction)) (link : LinkSystem) :
    Prop :=
  Transition.Run linkStep (LinkSystem.powerOn nvs) trace link

/-- In CONNECTED the association of the last GOT_IP has not been reported as ended. -/
def LinkSystem.linked (link : LinkSystem) : Prop :=
  link.system.device.state = .connected →
    ∀ association, link.lastGotIp = some association → association ∉ link.ended

/-- A GOT_IP is about an association not yet reported as ended. -/
def currentIp (link : LinkSystem) : LinkAction → Prop
  | .gotIp association _ => association ∉ link.ended
  | _ => True

/-- A GOT_IP finds an attempt or a link, not FAILED or AP_ONLY. -/
def awaitedIp (link : LinkSystem) : LinkAction → Prop
  | .gotIp _ _ => link.system.device.state ≠ .failed ∧ link.system.device.state ≠ .apOnly
  | _ => True

instance (link : LinkSystem) : (action : LinkAction) → Decidable (currentIp link action)
  | .gotIp _ _ => inferInstanceAs (Decidable (¬ _ ∈ _))
  | .associated | .disconnected .. | .other _ => isTrue trivial

instance (link : LinkSystem) : (action : LinkAction) → Decidable (awaitedIp link action)
  | .gotIp _ _ => inferInstanceAs (Decidable (_ ≠ _ ∧ _ ≠ _))
  | .associated | .disconnected .. | .other _ => isTrue trivial

theorem linked_step_iff {link next : LinkSystem} {action : LinkAction} (linked : link.linked)
    (taken : linkStep link action = some next) : next.linked ↔ currentIp link action := by
  cases action with
  | associated =>
      obtain ⟨system, stepped, rfl⟩ := Option.map_eq_some_iff.mp taken
      apply iff_of_true ?_ trivial
      intro connected
      rcases connected_step stepped connected with before | ⟨outcome, is⟩
      · exact linked before
      · cases is
  | disconnected association reason outcome =>
      have left {system : System}
          (stepped : step link.system (.disconnected reason outcome) = some system) :
          system.device.state ≠ .connected := by
        simp only [step] at stepped
        split at stepped <;> cases stepped
        exact Device.onDisconnected_not_connected _ reason outcome
      apply iff_of_true ?_ trivial
      intro connected
      cases association with
      | none =>
          obtain ⟨system, stepped, rfl⟩ := Option.map_eq_some_iff.mp taken
          exact absurd connected (left stepped)
      | some association =>
          simp only [linkStep] at taken
          split at taken
          · obtain ⟨system, stepped, rfl⟩ := Option.map_eq_some_iff.mp taken
            exact absurd connected (left stepped)
          · cases taken
  | gotIp association outcome =>
      simp only [linkStep] at taken
      split at taken
      · obtain ⟨system, stepped, rfl⟩ := Option.map_eq_some_iff.mp taken
        have connected : system.device.state = .connected := by
          simp only [step] at stepped
          split at stepped <;> cases stepped
          rfl
        constructor
        · intro after
          exact after connected association rfl
        · intro current _ other is
          cases is
          exact current
      · cases taken
  | other action =>
      simp only [linkStep] at taken
      split at taken
      · cases taken
      · rename_i silent
        obtain ⟨system, stepped, rfl⟩ := Option.map_eq_some_iff.mp taken
        apply iff_of_true ?_ trivial
        intro connected
        rcases connected_step stepped connected with before | ⟨outcome, rfl⟩
        · exact linked before
        · exact absurd rfl silent

/-- CONNECTED means a link, in every state of the run, and no GOT_IP leads there from FAILED
or AP_ONLY. -/
structure ConnectedMeansLink (trace : List (LinkSystem × LinkAction)) (final : LinkSystem) :
    Prop where
  before : ∀ taken ∈ trace, taken.1.linked
  last : final.linked
  entered : ∀ taken ∈ trace, awaitedIp taken.1 taken.2

/-- It does exactly when every GOT_IP is about an association that has not been reported as
ended, and finds neither FAILED nor AP_ONLY. -/
theorem connectedMeansLink_iff (nvs : Nvs) (trace : List (LinkSystem × LinkAction))
    (final : LinkSystem) (run : LinkHistory nvs trace final) :
    ConnectedMeansLink trace final ↔
      ∀ taken ∈ trace, currentIp taken.1 taken.2 ∧ awaitedIp taken.1 taken.2 := by
  have linked_iff := Transition.Run.safe_iff (fun connected => by cases connected)
    (fun _ _ _ _ _ linked taken => linked_step_iff linked taken) run
  constructor
  · intro means taken member
    exact ⟨linked_iff.mp ⟨means.before, means.last⟩ taken member, means.entered taken member⟩
  · intro events
    obtain ⟨before, last⟩ := linked_iff.mpr (fun taken member => (events taken member).1)
    exact ⟨before, last, fun taken member => (events taken member).2⟩

theorem exists_linkHistory (nvs : Nvs) (actions : List LinkAction) (property : LinkSystem → Bool)
    (executed : (Transition.exec linkStep (LinkSystem.powerOn nvs) actions).any property = true) :
    ∃ final, LinkHistory nvs (Transition.execTrace linkStep (LinkSystem.powerOn nvs) actions)
      final ∧ property final = true :=
  Transition.exists_run_of_exec actions property executed

def firstAttempt : List Action :=
  .init .ready :: .boot .ok noScan :: serveSave cafeRecord.ssid cafeRecord.pass false

def attemptAssociated : List LinkAction := firstAttempt.map .other ++ [.associated]

theorem provisioned_link :
    ∃ trace final, ConnectedMeansLink trace final ∧ final.system.device.state = .connected := by
  obtain ⟨final, run, connected⟩ := exists_linkHistory Nvs.erased
    (attemptAssociated ++ [.gotIp 0 .success])
    (fun link => decide (link.system.device.state = .connected)) (by decide)
  exact ⟨_, final, (connectedMeansLink_iff _ _ _ run).mpr (by decide),
    of_decide_eq_true connected⟩

/-- The access point drops the station before its address has been reported, and is gone on
the retry. The address is reported after that. -/
theorem late_ip_connects_dead_link :
    ¬ ∀ nvs trace final, LinkHistory nvs trace final → ConnectedMeansLink trace final := by
  intro means
  obtain ⟨final, run, late⟩ := exists_linkHistory Nvs.erased
    (attemptAssociated ++ [.disconnected (some 0) 8 .success,
      .disconnected none wifiReasonNoApFound .success, .gotIp 0 .success])
    (fun link => decide (link.system.device.state = .connected) &&
      decide (link.lastGotIp = some 0) && decide (0 ∈ link.ended)) (by decide)
  simp only [Bool.and_eq_true, decide_eq_true_eq] at late
  obtain ⟨⟨connected, last⟩, ended⟩ := late
  exact (means _ _ _ run).last connected 0 last ended

end HydroGovernor
