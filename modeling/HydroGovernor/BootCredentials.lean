import HydroGovernor.CredentialErasure
import HydroGovernor.LinkMachine

/-! Where the credentials that the device starts with come from, and where it goes when they do
not connect it. -/

namespace HydroGovernor

open Firmware
open Firmware.Transition (execTrace)

/-! Where they come from -/

/-- A save stores the name and the password, or neither. -/
def savesBoth : Action → Bool
  | .gotIp outcome => outcome.setSsid == outcome.setPass
  | _ => true

def FormPosted (trace : List (System × Action)) (ssid pass : CString) : Prop :=
  ∃ system isOpen, (system, .postSave ssid pass isOpen) ∈ trace

/-- connect_sta has copied the credentials of a form into the statics. -/
def FormStaged (trace : List (System × Action)) (ssid pass : CString) : Prop :=
  ∃ front system ret isOpen pointer back, trace = front ++ (system, .httpd ret) :: back ∧
    system.httpd = .connectStage ssid pass isOpen pointer ∧ FormPosted front ssid pass

/-- After that the link has got an address while they were pending. -/
def FormSaved (trace : List (System × Action)) (ssid pass : CString) : Prop :=
  ∃ front system outcome back, trace = front ++ (system, .gotIp outcome) :: back ∧
    FormStaged front ssid pass ∧ system.device.pendingSsid = ssid.take 63 ∧
    system.device.pendingPass = pass.take 63

section Later

variable {trace : List (System × Action)} {ssid pass : CString}

theorem FormPosted.later (posted : FormPosted trace ssid pass) (taken : System × Action) :
    FormPosted (trace ++ [taken]) ssid pass := by
  obtain ⟨system, isOpen, member⟩ := posted
  exact ⟨system, isOpen, List.mem_append_left _ member⟩

theorem FormStaged.later (staged : FormStaged trace ssid pass) (taken : System × Action) :
    FormStaged (trace ++ [taken]) ssid pass := by
  obtain ⟨front, system, ret, isOpen, pointer, back, rfl, pc, posted⟩ := staged
  exact ⟨front, system, ret, isOpen, pointer, back ++ [taken], by simp, pc, posted⟩

theorem FormSaved.later (saved : FormSaved trace ssid pass) (taken : System × Action) :
    FormSaved (trace ++ [taken]) ssid pass := by
  obtain ⟨front, system, outcome, back, rfl, staged, pending⟩ := saved
  exact ⟨front, system, outcome, back ++ [taken], by simp, staged, pending⟩

end Later

/-- The form that the httpd task is serving, up to its copy into the statics. -/
def HttpdPc.form : HttpdPc → Option (CString × CString)
  | .saveAccepted ssid pass _ => some (ssid, pass)
  | .connectLookup ssid pass _ => some (ssid, pass)
  | .connectStage ssid pass _ _ => some (ssid, pass)
  | _ => none

/-- A form comes into the httpd task by POST /save only. -/
theorem form_step {system next : System} {action : Action} {form : CString × CString}
    (taken : step system action = some next) (is : next.httpd.form = some form) :
    system.httpd.form = some form ∨ ∃ isOpen, action = .postSave form.1 form.2 isOpen := by
  by_cases on : linkEvent system action = some .powerOn
  · obtain ⟨_, rfl⟩ := powerOn_restarts taken on
    cases is
  cases action with
  | httpd ret =>
      refine .inl ?_
      simp only [step, httpdStep] at taken
      cases pc : system.httpd with
      | saveAccepted ssid pass isOpen =>
          simp only [pc] at taken
          split at taken <;> cases taken
          · exact is
          · cases is
      | connectLookup ssid pass isOpen =>
          simp only [pc] at taken
          cases taken
          exact is
      | connectConfigure config =>
          simp only [pc] at taken
          split at taken <;> cases taken <;> cases is
      | _ =>
          simp only [pc] at taken
          (try split at taken) <;> cases taken <;> cases is
  | postSave ssid pass isOpen =>
      simp only [step] at taken
      split at taken
      · split at taken <;> cases taken
        · exact .inl is
        · cases is
          exact .inr ⟨isOpen, rfl⟩
      · cases taken
  | getRoot | postApShutdown | getScan =>
      simp only [step] at taken
      split at taken
      · (try split at taken) <;> cases taken <;> first | exact .inl is | cases is
      · cases taken
  | _ =>
      rw [step_httpd taken (fun _ => by simp) rfl on] at is
      exact .inl is

/-- What the device holds of credentials, the stored ones included, was posted in one form. -/
structure Provenance (trace : List (System × Action)) (system : System) : Prop where
  form : ∀ ssid pass, system.httpd.form = some (ssid, pass) → FormPosted trace ssid pass
  pending : system.device.pendingSsid.bytes ≠ [] → ∃ ssid pass, FormStaged trace ssid pass ∧
    system.device.pendingSsid = ssid.take 63 ∧ system.device.pendingPass = pass.take 63
  stored : system.device.nvs.readable = true → ∃ ssid pass, FormSaved trace ssid pass ∧
    system.device.nvs.holds (ssid.take 63) (pass.take 63)

theorem pending_step {trace : List (System × Action)} {system next : System} {action : Action}
    (provenance : Provenance trace system) (taken : step system action = some next)
    (named : next.device.pendingSsid.bytes ≠ []) :
    ∃ ssid pass, FormStaged (trace ++ [(system, action)]) ssid pass ∧
      next.device.pendingSsid = ssid.take 63 ∧ next.device.pendingPass = pass.take 63 := by
  have kept (sameSsid : next.device.pendingSsid = system.device.pendingSsid)
      (samePass : next.device.pendingPass = system.device.pendingPass) :
      ∃ ssid pass, FormStaged (trace ++ [(system, action)]) ssid pass ∧
        next.device.pendingSsid = ssid.take 63 ∧ next.device.pendingPass = pass.take 63 := by
    rw [sameSsid] at named
    obtain ⟨ssid, pass, staged, isSsid, isPass⟩ := provenance.pending named
    exact ⟨ssid, pass, staged.later _, sameSsid.trans isSsid, samePass.trans isPass⟩
  cases step_pending taken with
  | same statics calls => exact kept statics.ssid statics.pass
  | @staged ssid pass isOpen pointer ret pc =>
      have posted := provenance.form ssid pass (by rw [pc]; rfl)
      exact ⟨ssid, pass, ⟨trace, system, ret, isOpen, pointer, [], rfl, pc, posted⟩, rfl, rfl⟩
  | handed pc => exact kept rfl rfl
  | handedStored statics window staging source => exact kept statics.ssid statics.pass
  | cleared statics calls =>
      rw [statics.ssid] at named
      exact absurd rfl named
  | restarted staging => exact absurd rfl named

theorem nvsWrite_both {outcome : NvsOutcome} (both : outcome.setSsid = outcome.setPass)
    (nvs : Nvs) (ssid pass : CString) (bssidSet : Bool) (bssid : Bssid) (auth : AuthMode) :
    (nvsWrite outcome nvs ssid pass bssidSet bssid auth).2.holds ssid pass ∨
      (nvsWrite outcome nvs ssid pass bssidSet bssid auth).2.ssid = nvs.ssid ∧
        (nvsWrite outcome nvs ssid pass bssidSet bssid auth).2.pass = nvs.pass := by
  by_cases opened : outcome.opens = .ok
  · rw [nvsWrite_opened opened, ← both]
    by_cases stores : outcome.stores outcome.setSsid
    · exact .inl ⟨if_pos stores, if_pos stores⟩
    · exact .inr ⟨if_neg stores, if_neg stores⟩
  · rw [nvsWrite, if_pos opened]
    exact .inr ⟨rfl, rfl⟩

theorem readable_congr {before after : Nvs} (ssid : after.ssid = before.ssid)
    (pass : after.pass = before.pass) (readable : after.readable = true) :
    before.readable = true := by
  obtain ⟨stored, secret, isStored, isSecret, accepted⟩ := (readable_iff after).mp readable
  exact (readable_iff before).mpr
    ⟨stored, secret, ssid.symm.trans isStored, pass.symm.trans isSecret, accepted⟩

theorem stored_step {trace : List (System × Action)} {system next : System} {action : Action}
    (provenance : Provenance trace system) (both : savesBoth action = true)
    (taken : step system action = some next) (readable : next.device.nvs.readable = true) :
    ∃ ssid pass, FormSaved (trace ++ [(system, action)]) ssid pass ∧
      next.device.nvs.holds (ssid.take 63) (pass.take 63) := by
  have kept (sameSsid : next.device.nvs.ssid = system.device.nvs.ssid)
      (samePass : next.device.nvs.pass = system.device.nvs.pass) :
      ∃ ssid pass, FormSaved (trace ++ [(system, action)]) ssid pass ∧
        next.device.nvs.holds (ssid.take 63) (pass.take 63) := by
    obtain ⟨ssid, pass, saved, isSsid, isPass⟩ :=
      provenance.stored (readable_congr sameSsid samePass readable)
    exact ⟨ssid, pass, saved.later _, sameSsid.trans isSsid, samePass.trans isPass⟩
  have changed := step_nvs taken
  cases changed with
  | @saved outcome next named nvs =>
      obtain ⟨ssid, pass, staged, isSsid, isPass⟩ := provenance.pending named
      rcases nvsWrite_both (beq_iff_eq.mp both) system.device.nvs system.device.pendingSsid
        system.device.pendingPass system.device.pendingBssidSet system.device.pendingBssid
        system.device.pendingAuth with holds | ⟨sameSsid, samePass⟩
      · refine ⟨ssid, pass, ⟨trace, system, outcome, [], rfl, staged, isSsid, isPass⟩, ?_⟩
        rw [nvs, ← isSsid, ← isPass]
        exact holds
      · exact kept (by rw [nvs, sameSsid]) (by rw [nvs, samePass])
  | same nvs => exact kept (by rw [nvs]) (by rw [nvs])
  | initialised nvs =>
      have same := nvsInit_stays _ _ (nvs ▸ readable)
      exact kept (by rw [nvs, same]) (by rw [nvs, same])
  | rejected connecting used auth nvs =>
      have same := nvsClear_stays _ _ (nvs ▸ readable)
      exact kept (by rw [nvs, same]) (by rw [nvs, same])
  | bootFailed pc after nvs =>
      have same := nvsClear_stays _ _ (nvs ▸ readable)
      exact kept (by rw [nvs, same]) (by rw [nvs, same])

theorem provenance_step {trace : List (System × Action)} {system next : System} {action : Action}
    (provenance : Provenance trace system) (both : savesBoth action = true)
    (taken : step system action = some next) :
    Provenance (trace ++ [(system, action)]) next where
  form ssid pass is := by
    rcases form_step taken is with before | ⟨isOpen, rfl⟩
    · exact (provenance.form ssid pass before).later _
    · exact ⟨system, isOpen, List.mem_append_right _ (List.mem_singleton_self _)⟩
  pending named := pending_step provenance taken named
  stored readable := stored_step provenance both taken readable

/-- On a device that came with an empty store, whatever wifi_manager_start and
wifi_manager_reconnect read back was entered in one form, and the link got an address while that
form was pending, however often the device has restarted since. -/
theorem credentials_from_form (nvs : Nvs) (trace : List (System × Action)) (final : System)
    (run : History nvs trace final) (empty : nvs.readable = false)
    (both : ∀ taken ∈ trace, savesBoth taken.2 = true) (opens : EspErr) (creds : Credentials)
    (read : nvsRead opens final.device.nvs = some creds) :
    ∃ ssid pass, FormSaved trace ssid pass ∧ creds.ssid = ssid.take 63 ∧
      creds.pass = pass.take 63 := by
  have initial : Provenance [] (System.powerOn nvs) :=
    { form := fun _ _ is => by cases is
      pending := fun named => absurd rfl named
      stored := fun readable => absurd (readable.symm.trans empty) (by simp) }
  have provenance := run.invariant Provenance (fun _ action => savesBoth action = true) initial
    (fun _ _ _ _ _ provenance both taken => provenance_step provenance both taken) both
  have readable : final.device.nvs.readable = true := by
    have opened : opens = .ok := by
      by_contra closed
      rw [nvsRead, if_pos closed] at read
      cases read
    rw [Nvs.readable, ← opened, read, Option.isSome_some]
  obtain ⟨ssid, pass, saved, isSsid, isPass⟩ := provenance.stored readable
  obtain ⟨storedSsid, storedPass⟩ := nvsRead_holds read
  exact ⟨ssid, pass, saved, Option.some.inj (storedSsid.symm.trans isSsid),
    Option.some.inj (storedPass.symm.trans isPass)⟩

def provisionedReboot : List Action := provision ++ [.restart, .init .ready]

theorem provisioned_reboot_reads_form :
    ∃ (final : System) (creds : Credentials) (ssid pass : CString),
      nvsRead .ok final.device.nvs = some creds ∧
        FormSaved (execTrace step (System.powerOn .erased) provisionedReboot) ssid pass ∧
        creds.ssid = ssid.take 63 ∧ creds.pass = pass.take 63 := by
  obtain ⟨final, run, readable⟩ := exists_history .erased provisionedReboot
    (fun system => (nvsRead .ok system.device.nvs).isSome) (by decide)
  obtain ⟨creds, read⟩ := Option.isSome_iff_exists.mp readable
  obtain ⟨ssid, pass, saved, isSsid, isPass⟩ := credentials_from_form .erased _ final run
    readable_erased (by decide) .ok creds read
  exact ⟨final, creds, ssid, pass, read, saved, isSsid, isPass⟩

/-! Where it goes when they do not connect it -/

/-- wifi_manager_start has given up and erased the record, and the device has not decided yet how
to start. -/
structure BootRefused (system : System) : Prop where
  erased : system.device.nvs = Nvs.erased
  early : system.main = .restarting ∨ system.main = .init ∨ system.main = .boot

theorem BootRefused.off {system : System} (refused : BootRefused system) :
    system.started = false := by
  rcases refused.early with pc | pc | pc <;> rw [System.started, pc] <;> rfl

theorem erased_step {system next : System} {action : Action} (refused : BootRefused system)
    (quiet : BootQuiet system) (taken : step system action = some next) :
    next.device.nvs = Nvs.erased := by
  have changed := step_nvs taken
  cases changed with
  | same nvs => exact nvs.trans refused.erased
  | @initialised flash next nvs =>
      rw [nvs, refused.erased, nvsInit]
      split
      · exact ite_self _
      · rfl
  | rejected connecting used auth nvs =>
      rw [nvs, refused.erased, nvsClear]
      exact ite_self _
  | saved named nvs => exact absurd (quiet.pending refused.off) named
  | bootFailed pc after nvs =>
      rw [nvs, refused.erased, nvsClear]
      exact ite_self _

theorem early_step {system next : System} {action : Action} (refused : BootRefused system)
    (quiet : BootQuiet system) (undecided : ∀ opens driver, action ≠ .boot opens driver)
    (taken : step system action = some next) :
    next.main = .restarting ∨ next.main = .init ∨ next.main = .boot := by
  have same (main : next.main = system.main) :
      next.main = .restarting ∨ next.main = .init ∨ next.main = .boot := by
    rw [main]
    exact refused.early
  cases action with
  | httpd ret =>
      simp only [step, httpdStep, quiet.httpd refused.off] at taken
      cases taken
  | main ret outcome =>
      simp only [step, mainStep] at taken
      rcases refused.early with pc | pc | pc
      · simp only [pc] at taken
        cases taken
        exact .inr (.inl rfl)
      · simp only [pc] at taken
        cases taken
      · simp only [pc] at taken
        cases taken
  | init flash =>
      obtain ⟨-, rfl⟩ := init_cases taken
      rcases initStep_cases system flash with ⟨-, ready⟩ | ⟨-, aborted⟩
      · rw [ready]
        exact .inr (.inr rfl)
      · rw [aborted]
        exact .inr (.inl rfl)
  | boot opens driver => exact absurd rfl (undecided opens driver)
  | restart =>
      cases taken
      exact .inr (.inl rfl)
  | delayed index => exact same (delayedStep_frame taken).1
  | _ =>
      simp only [step] at taken
      repeat' (split at taken)
      all_goals
        cases taken
        try exact same rfl

/-- When wifi_manager_start gives up and the erase takes effect, the device offers its setup
network at the next boot, whatever events come since the end of the wait and however often it is
restarted before. -/
theorem failed_boot_opens_portal (nvs : Nvs) (trace : List (System × Action)) (final : System)
    (run : History nvs trace final) (front middle back : List (System × Action))
    (failing booting : System) (ret opens : EspErr) (outcome : NvsOutcome) (driver : ScanDriver)
    (split : trace = front ++ (failing, .main ret outcome) ::
      (middle ++ (booting, .boot opens driver) :: back))
    (givesUp : failing.main = .bootEnded false) (clears : outcome.clears = true)
    (undecided : ∀ taken ∈ middle, ∀ opens driver, taken.2 ≠ .boot opens driver) :
    ∃ next, step booting (.boot opens driver) = some next ∧ next.device.state = .apOnly ∧
      next.device.apActive = true := by
  obtain ⟨refused, reached, taken, rest⟩ := run.before split
  obtain ⟨next, between, booted, -⟩ := rest.before rfl
  have start : BootRefused refused := by
    rcases mainStep_cases taken with writes | quiet
    · cases writes with
      | bootFailed pc => exact ⟨nvsClear_of_clears clears _, .inl rfl⟩
      | bootEnded pc | bootConnected pc | restarted pc | entered pc | launchFailed pc =>
          exact absurd (givesUp.symm.trans pc) (by simp)
    · have started := quiet.startedBefore
      rw [System.started, givesUp] at started
      cases started
  obtain ⟨refused, -⟩ := between.invariant (fun _ system => BootRefused system ∧ BootQuiet system)
    (fun _ action => ∀ opens driver, action ≠ .boot opens driver)
    ⟨start, bootQuiet_step (bootQuiet_of_history reached) taken⟩
    (fun _ state action next _ inv undecided taken =>
      ⟨⟨erased_step inv.1 inv.2 taken, early_step inv.1 inv.2 undecided taken⟩,
        bootQuiet_step inv.2 taken⟩) undecided
  refine ⟨next, booted, ?_⟩
  rcases (boot_cases booted).2 with ⟨-, rfl⟩ | ⟨creds, read, -⟩
  · exact ⟨rfl, rfl⟩
  · rw [refused.erased, nvsRead_erased] at read
    cases read

/-- The stored network is gone: two disconnects end the wait of the first boot, and the addresses
that come before and after the erase do not spoil the second one. -/
def networkGone : List Action :=
  [.init .ready, .boot .ok noScan, .staStart, .disconnected wifiReasonNoApFound .success,
    .disconnected wifiReasonNoApFound .success, .main .ok .success, .gotIp .success,
    .main .ok .success, .gotIp .success, .main .ok .success, .init .ready, .boot .ok noScan]

def networkGoneTrace : List (System × Action) :=
  execTrace step (System.powerOn homeNvs) networkGone

def atNetworkGone (index : Nat) : System :=
  (Transition.exec step (System.powerOn homeNvs) (networkGone.take index)).getD
    (System.powerOn homeNvs)

theorem network_gone_opens_portal :
    ∃ next, step (atNetworkGone 11) (.boot .ok noScan) = some next ∧
      next.device.state = .apOnly ∧ next.device.apActive = true := by
  have split : networkGoneTrace = networkGoneTrace.take 7 ++
      (atNetworkGone 7, .main .ok .success) :: ((networkGoneTrace.drop 8).take 3 ++
        [(atNetworkGone 11, .boot .ok noScan)]) := by
    decide +kernel
  have givesUp : (atNetworkGone 7).main = .bootEnded false := by decide +kernel
  have undecided : (networkGoneTrace.drop 8).take 3 =
      [(atNetworkGone 8, .gotIp .success), (atNetworkGone 9, .main .ok .success),
        (atNetworkGone 10, .init .ready)] := by
    decide +kernel
  obtain ⟨final, run, -⟩ := exists_history homeNvs networkGone (fun _ => true) (by decide +kernel)
  refine failed_boot_opens_portal homeNvs _ final run _ _ _ _ _ _ _ _ _ split givesUp
    (by decide) ?_
  rw [undecided]
  simp

end HydroGovernor
